import Harvest.FileSystem

/-!
# File trees

A file system as a value: files, directories and links by path, and how paths are walked. The failures
are those that the calls of a system report.
-/

namespace Harvest

/-- What a node of the tree holds. -/
inductive FileBody where
  | file (bytes : ByteArray)
  | directory
  | link (target : String)

/-- A node of the tree. -/
structure FileNode where
  body : FileBody
  mode : Nat
  /-- Nanoseconds since the start of 1970. -/
  modified : Int

/-- Nodes by the components of their paths. The root is a directory even where it is not listed. -/
structure FileTree where
  nodes : List (List String × FileNode)
  owner : String
  group : String

namespace FileTree

/-- The tree without files. -/
def empty : FileTree := ⟨[], "0", "0"⟩

/-- The nanoseconds of a second. -/
def second : Int := 1000000000

/-- When files that say nothing else were changed: 1000 seconds after the start of 1970. -/
def standardTime : Int := 1000 * second

/-- A directory that says nothing else of itself. -/
def standardDirectory : FileNode := ⟨.directory, 0o755, standardTime⟩

/-- The node at a path, not following a link there. -/
def node? (t : FileTree) (path : List String) : Option FileNode :=
  match t.nodes.find? (fun n => n.1 == path) with
  | some n => some n.2
  | none => if path.isEmpty then some standardDirectory else none

/-- Whether there is a directory at a path. -/
def hasDirectory (t : FileTree) (path : List String) : Bool :=
  match t.node? path with
  | some ⟨.directory, _, _⟩ => true
  | _ => false

/-- The most bytes a component may have. -/
def maxNameLength : Nat := 255

/-- The fewest bytes a path is too long with. -/
def pathLimit : Nat := 4096

/-- How many links are followed at most. -/
def maxLinks : Nat := 40

/-- The components of a path, empty ones included. -/
def parts (path : String) : List String := (Path.split path.toList).map String.ofList

/-- Walks from the directory `here` along the components that are left and answers where they lead,
with all links followed. -/
def walk (t : FileTree) (links : Nat) (here : List String) : List String → Except Nat (List String)
  | [] => .ok here
  | part :: rest =>
    if !t.hasDirectory here then .error Errno.notDirectory
    else if part = "" ∨ part = "." then t.walk links here rest
    else if part = ".." then t.walk links here.dropLast rest
    else if maxNameLength < part.utf8ByteSize then .error Errno.nameTooLong
    else
      match t.node? (here ++ [part]) with
      | none => .error Errno.noEntry
      | some ⟨.link target, _, _⟩ =>
        match links with
        | 0 => .error Errno.linkLoop
        | links + 1 =>
          if target.toList.head? = some '/' then .error Errno.noEntry
          else t.walk links here (parts target ++ rest)
      | some _ => t.walk links (here ++ [part]) rest
termination_by rest => (links, rest.length)

/-- The components of a path in a tree that is found at `mount`. Paths that do not start with a
separator are taken from the root of the tree; other places than the tree are empty. -/
def locate? (mount path : String) : Option (List String) :=
  match (parts mount).isPrefixOf? (parts path) with
  | some rest => some rest
  | none => if path.toList.head? = some '/' then none else some (parts path)

/-- The failure of a call that got a path with a zero byte. -/
def zeroByte : Failure := .of (.system .other "file name contained an unexpected NUL byte")

/-- Where a path leads. -/
def resolve (t : FileTree) (mount path : String) : Except Failure (List String) :=
  if path.toList.contains '\x00' then .error zeroByte
  else if pathLimit ≤ path.utf8ByteSize then .error (.errno Errno.nameTooLong)
  else if path.isEmpty then .error (.errno Errno.noEntry)
  else
    match locate? mount path with
    | none => .error (.errno Errno.noEntry)
    | some components => (t.walk maxLinks [] components).mapError Failure.errno

/-- The node a path leads to. -/
def find (t : FileTree) (mount path : String) : Except Failure (List String × FileNode) := do
  let place ← t.resolve mount path
  match t.node? place with
  | some n => return (place, n)
  | none => throw (.errno Errno.noEntry)

/-- The length of a body. -/
def FileBody.length : FileBody → UInt64
  | .file bytes => UInt64.ofNat bytes.size
  | _ => 0

/-- The status of what a path leads to. -/
def status (t : FileTree) (mount path : String) : Except Failure FileStatus := do
  let (_, n) ← t.find mount path
  return ⟨n.body matches .directory, FileBody.length n.body, n.modified,
    some ⟨t.owner, t.group, n.mode⟩⟩

/-- The names in a directory. -/
def names (t : FileTree) (mount path : String) : Except Failure (List String) := do
  let (place, n) ← t.find mount path
  match n.body with
  | .directory =>
    return t.nodes.filterMap fun node =>
      match place.isPrefixOf? node.1 with
      | some [name] => some name
      | _ => none
  | _ => throw (.errno Errno.notDirectory)

/-- The content of a file. A directory can be opened, but reading it fails. -/
def read (t : FileTree) (mount path : String) : Except Failure Content := do
  let (_, n) ← t.find mount path
  match n.body with
  | .file bytes => return .ofBytes bytes
  | _ => return ⟨[], some (.errno Errno.isDirectory)⟩

/-- The tree without a node and all that lies below it. -/
def without (t : FileTree) (place : List String) : FileTree :=
  { t with nodes := t.nodes.filter (fun n => !place.isPrefixOf n.1) }

/-- Puts a node at a path, in place of the one that was there. -/
def set (t : FileTree) (place : List String) (n : FileNode) : FileTree :=
  match t.nodes.find? (fun old => old.1 == place) with
  | some _ => { t with nodes := t.nodes.map (fun old => if old.1 == place then (place, n) else old) }
  | none => { t with nodes := t.nodes ++ [(place, n)] }

/-- Puts a node at a path and makes the directories that lead to it. Nothing is left below a node that
is no directory. -/
def put (t : FileTree) (place : List String) (n : FileNode) : FileTree :=
  let parents := (List.range place.length).map (fun k => place.take k)
  let made := parents.foldl
    (fun t p => if p.isEmpty || (t.node? p).isSome then t else t.set p standardDirectory) t
  match n.body with
  | .directory => made.set place n
  | _ => (made.without place).set place n

/-- Gives the file that a path leads to other content; a file that does not exist is made. -/
def write (t : FileTree) (mount path : String) (bytes : ByteArray) : Except Failure FileTree := do
  match t.find mount path with
  | .ok (place, n) =>
    match n.body with
    | .file _ => return t.set place { n with body := .file bytes }
    | _ => throw (.errno Errno.isDirectory)
  | .error f =>
    if !FileSystem.saysAbsent f then throw f
    match locate? mount path with
    | none => throw f
    | some components =>
      let directory ← (t.walk maxLinks [] components.dropLast).mapError Failure.errno
      match components.getLast? with
      | some name =>
        if !t.hasDirectory directory then throw (.errno Errno.notDirectory)
        return t.set (directory ++ [name]) ⟨.file bytes, 0o644, standardTime⟩
      | none => throw f

/-- The first name for a scratch file that is not in use in a directory. -/
def freshName (taken : List String) : String :=
  let candidate (k : Nat) := ".scratch-" ++ String.ofList (Text.decimal k)
  ((List.range (taken.length + 1)).map candidate).find? (!taken.contains ·) |>.getD (candidate 0)

end FileTree

end Harvest
