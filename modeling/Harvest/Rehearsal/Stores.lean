import Harvest.Rehearsal.World
import Harvest.Store.Directory

/-!
# Stores of a rehearsal

Stores that live in the state of a rehearsal: a table of entries whose calls follow the script, a file
tree, and a table of objects.
-/

namespace Harvest.Rehearsal

namespace NodeTable

/-- The entry of an identifier. The root is a container from the start. -/
def get? (t : NodeTable) (id : String) : Option Node := t.nodes.lookup id

/-- The table with an entry, in place of the one that was there. -/
def insert (t : NodeTable) (id : String) (n : Node) : NodeTable :=
  { t with nodes := (id, n) :: t.nodes.filter (fun e => e.1 != id) }

/-- The table without an entry. -/
def erase (t : NodeTable) (id : String) : NodeTable :=
  { t with nodes := t.nodes.filter (fun e => e.1 != id) }

/-- An empty container. -/
def emptyContainer : Node := ⟨true, .empty, 1000, none, none⟩

/-- The table of the given entries and the root. -/
def ofNodes (idStart : String) (access : Option (List AccessEntry)) (nodes : List (String × Node)) :
    NodeTable :=
  nodes.foldl (fun t e => t.insert e.1 e.2) ⟨idStart, access, [("/", emptyContainer)]⟩

/-- Whether an identifier lies directly below another. -/
def isChild (parent id : String) : Bool :=
  let start := if parent.toList.getLast? == some '/' then parent.toList else parent.toList ++ ['/']
  match start.isPrefixOf? id.toList with
  | some (c :: rest) => !(c :: rest).contains '/'
  | _ => false

/-- The children of an identifier. -/
def children (t : NodeTable) (id : String) : List String :=
  match (t.get? id).bind (·.children) with
  | some children => children
  | none => ((t.nodes.map (·.1)).filter (isChild id)).mergeSort (fun a b => a ≤ b)

end NodeTable

namespace World

/-- The failure of a call on an identifier without an entry. -/
def noSuchEntry (id : String) : Failure :=
  .plain ("The system cannot find the file specified: " ++ id)

/-- Notes a call and acts on its cue. -/
def answering (c : StoreCall) (id : String) : Action (StateM World) Unit := do
  modify fun w => { w with calls := (c.label, id) :: w.calls }
  perform c.label id

/-- The entry of an identifier, for a call. -/
def entryFor (c : StoreCall) (id : String) : Action (StateM World) Node := do
  answering c id
  match (← get).table.get? id with
  | some n => return n
  | none => throw (noSuchEntry id)

/-- A failure as it comes out of reading content: a failed system call stays one, anything else becomes
one. -/
def readFailure (f : Failure) : Failure :=
  match f.outermost with
  | .system kind message => .of (.system kind message)
  | _ => .of (.system .other f.message)

/-- The failure that the script has in store for a call, if any. -/
def failureOf (call id : String) : StateM World (Option Failure) := do
  match ← (perform call id).run with
  | .ok _ => return none
  | .error f => return some f

/-- The store of the table of entries. -/
def tableStore (idStart : String) : Store (StateM World) where
  idStart := idStart
  present id := do
    answering .present id
    return ((← get).table.get? id).isSome
  isContainer id := return (← entryFor .isContainer id).isContainer
  modified id := return (← entryFor .modified id).modified
  length id := return UInt64.ofNat (← entryFor .length id).content.size
  children id := do
    answering .children id
    let children := (← get).table.children id
    return ⟨children, ← failureOf "list_item" id⟩
  content id := do
    let n ← entryFor .content id
    return ⟨[n.content], (← failureOf "read" id).map readFailure⟩
  access id := return (← entryFor .access id).access
  containerAccess id := do
    answering .containerAccess id
    return (← get).table.containerAccess

/-- The file tree as a file system. -/
def fileSystem (mount : String) : FileSystem (StateM World) where
  status path := do Action.ofResult ((← get).files.status mount path)
  names path := do Action.ofResult ((← get).files.names mount path)
  read path := do Action.ofResult ((← get).files.read mount path)
  write path bytes := do
    let files ← Action.ofResult ((← get).files.write mount path bytes)
    modify fun w => { w with files := files }
  append path bytes := do
    let content ← Action.ofResult ((← get).files.read mount path)
    let files ← Action.ofResult ((← get).files.write mount path (content.bytes ++ bytes))
    modify fun w => { w with files := files }
  create directory := do
    let taken ← Action.ofResult ((← get).files.names mount directory)
    let path := FileSystem.join directory (FileTree.freshName taken)
    let files ← Action.ofResult ((← get).files.write mount path .empty)
    modify fun w => { w with files := files }
    return path
  remove path := modify fun w =>
    match w.files.resolve mount path with
    | .ok place => { w with files := w.files.without place }
    | .error _ => w

/-- The table of objects as a service. -/
def objectService : ObjectService (StateM World) where
  status k := do Action.ofResult ((← get).objects.status k)
  list start := return (← get).objects.list start
  read k := do Action.ofResult ((← get).objects.read k)
  write k bytes := do
    let objects ← Action.ofResult ((← get).objects.write k bytes)
    modify fun w => { w with objects := objects }

end World

end Harvest.Rehearsal
