import Harvest.FileSystem

/-!
# Directories as stores

A directory and all below it as a store. Identifiers are paths below the directory; none leads out of
it. Names that start with a dot are left out of listings unless they are asked for.
-/

namespace Harvest

/-- A directory that serves as a store. -/
structure DirectoryStore where
  root : String
  includeHidden : Bool

namespace DirectoryStore

/-- The components of an identifier; `none` if one of them leads upwards. -/
def components? (id : String) : Option (List String) :=
  let parts := (Path.split (Path.trimStart id.toList)).map String.ofList
  if parts.contains ".." then none else some (parts.filter (fun p => p != "" && p != "."))

/-- The failure of an identifier that leads out of the store. -/
def escapes (id : String) : Failure :=
  .of (.system .permissionDenied ("identifier '" ++ id ++ "' escapes the store root"))

/-- The path of an identifier. -/
def resolve (d : DirectoryStore) (id : String) : Except Failure String :=
  match components? id with
  | some parts => .ok (parts.foldl FileSystem.join d.root)
  | none => .error (escapes id)

/-- Milliseconds of a time in nanoseconds, cut towards the start of 1970. -/
def milliseconds (nanoseconds : Int) : Int64 := Int64.ofInt (nanoseconds.tdiv 1000000)

/-- Whether the mode has a bit, as the rights it grants. -/
def rights (mode bit : Nat) : UInt32 := if mode &&& bit ≠ 0 then AccessEntry.readData else 0

/-- The access list of owner, group and everyone. -/
def accessOf (o : Ownership) : List AccessEntry :=
  [⟨"uid:" ++ o.owner, true, rights o.mode 0o400⟩, ⟨"gid:" ++ o.group, true, rights o.mode 0o040⟩,
    ⟨"everyone", true, rights o.mode 0o004⟩]

/-- Whether a name is shown in listings. -/
def shows (d : DirectoryStore) (name : String) : Bool :=
  d.includeHidden || name.toList.head? != some '.'

/-- The identifiers of children with the given names, in the order of the names. -/
def childIds (d : DirectoryStore) (parent : String) (names : List String) : List String :=
  ((names.filter d.shows).mergeSort (fun a b => a ≤ b)).map (Path.join parent)

section Calls

variable {m : Type → Type} [Monad m] {α : Type}

/-- Makes a call with the path of an identifier; its failure says what was attempted on which path. -/
def attempt (d : DirectoryStore) (purpose id : String) (call : String → Action m α) : Action m α := do
  let path ← Action.ofResult (d.resolve id)
  Action.within (purpose ++ path) (call path)

/-- The status of an identifier. -/
def status (d : DirectoryStore) (fs : FileSystem m) (id : String) : Action m FileStatus :=
  d.attempt "Failed to stat " id fs.status

/-- The store of a directory. -/
def store (d : DirectoryStore) (fs : FileSystem m) : Store m where
  idStart := ""
  present id := d.attempt "Failed to check existence of " id fs.isPresent
  isContainer id := return (← d.status fs id).isDirectory
  modified id := return milliseconds (← d.status fs id).modified
  length id := do
    let s ← d.status fs id
    return if s.isDirectory then 0 else s.length
  children id := do
    let names ← d.attempt "Failed to read directory: " id fs.names
    return .ofList (d.childIds id names)
  content id := d.attempt "Failed to open " id fs.read
  access id := return (← d.status fs id).ownership.map accessOf
  containerAccess _ := do
    let s ← Action.within ("Failed to stat store root " ++ d.root) (fs.status d.root)
    return s.ownership.map accessOf

end Calls

end DirectoryStore

end Harvest
