import Harvest.Store
import Harvest.Text.Property

/-!
# Object services as stores

An object service knows objects by key and has no directories: a container is a key that other keys
continue after a separator. There are no access lists.
-/

namespace Harvest

/-- What an object service knows of a key. -/
structure ObjectStatus where
  /-- The key stands for all that continue it. -/
  isPrefix : Bool
  length : UInt64
  modified : Option Moment
deriving DecidableEq, Repr

/-- An object service. A key that ends in a separator asks for what continues it. -/
structure ObjectService (m : Type → Type) where
  status : String → Action m ObjectStatus
  /-- The keys directly below; those that stand for others end in a separator. -/
  list : String → Action m (List String)
  read : String → Action m ByteArray
  write : String → ByteArray → Action m Unit

namespace ObjectService

/-- The key of an identifier. -/
def key (id : String) : String := String.ofList (Path.trim id.toList)

/-- What the keys below an identifier start with. -/
def keyStart (id : String) : String := if (key id).isEmpty then "" else key id ++ "/"

/-- Whether a failure says that there is no such key. -/
def saysAbsent (f : Failure) : Bool :=
  match f.outermost with
  | .service .notFound _ _ => true
  | _ => false

/-- The first and the last day whose dates have years of four digits. -/
def plainDays : Int × Int := (Moment.dayOfDate ⟨0, 1, 1⟩, Moment.dayOfDate ⟨9999, 12, 31⟩)

/-- The time of a change. Times beyond the years that dates are written for count as unknown, and what
is unknown counts as the start of 1970. -/
def timeOf (modified : Option Moment) : Int64 :=
  match modified with
  | none => 0
  | some t =>
    let day := t.fdiv Moment.dayLength
    if plainDays.1 ≤ day ∧ day ≤ plainDays.2 then Int64.ofInt t else 0

/-- The identifiers of keys that are found below `start`, sorted, each once. -/
def childIds (start : String) (keys : List String) : List String :=
  let names := keys.map (fun k => String.ofList (Path.trimEnd k.toList))
  let below := names.filter (fun n => n != "" && n ++ "/" != start)
  ((below.map ("/" ++ ·)).mergeSort (fun a b => a ≤ b)).eraseReps

section Calls

variable {m : Type → Type} [Monad m]

/-- The status of a key, if there is such a key. -/
def status? (s : ObjectService m) (purpose id k : String) : Action m (Option ObjectStatus) :=
  ExceptT.mk do
    match ← (s.status k).run with
    | .ok status => return .ok (some status)
    | .error f => return if saysAbsent f then .ok none else .error (f.within (purpose ++ id))

/-- The status of an object, or else of the keys below the identifier. -/
def find? (s : ObjectService m) (id : String) : Action m (Option ObjectStatus) := do
  if (key id).isEmpty then return none
  match ← s.status? "Failed to stat object " id (key id) with
  | some status => return some status
  | none => s.status? "Failed to stat prefix " id (keyStart id)

/-- The status of what has to be there; the root always is. -/
def find (s : ObjectService m) (id : String) : Action m ObjectStatus := do
  match ← s.find? id with
  | some status => return status
  | none =>
    if (key id).isEmpty then return ⟨true, 0, none⟩
    throw (.of (.system .notFound ("The system cannot find the object " ++ id)))

/-- Writes an object. -/
def put (s : ObjectService m) (id : String) (bytes : ByteArray) : Action m Unit :=
  Action.within ("Failed to write object " ++ id) (s.write (key id) bytes)

/-- The store of an object service. -/
def store (s : ObjectService m) : Store m where
  idStart := ""
  present id := do
    if (key id).isEmpty then return true
    return (← s.find? id).isSome
  isContainer id := return (← s.find id).isPrefix
  modified id := return timeOf (← s.find id).modified
  length id := do
    let status ← s.find id
    return if status.isPrefix then 0 else status.length
  children id := do
    let keys ← Action.within ("Failed to list prefix " ++ id) (s.list (keyStart id))
    return .ofList (childIds (keyStart id) keys)
  content id := do
    return .ofBytes (← Action.within ("Failed to read object " ++ id) (s.read (key id)))
  access _ := return none
  containerAccess _ := return none

end Calls

end ObjectService

/-- Objects by key. -/
structure ObjectTable where
  objects : List (String × ByteArray)

namespace ObjectTable

/-- The object of a key. -/
def get? (t : ObjectTable) (k : String) : Option ByteArray := t.objects.lookup k

/-- The table with an object under a key, in place of the one that was there. -/
def insert (t : ObjectTable) (k : String) (bytes : ByteArray) : ObjectTable :=
  ⟨(k, bytes) :: t.objects.filter (fun o => o.1 != k)⟩

/-- The failure of a request for a key that is not there. -/
def notFound : Failure := .of (.service .notFound false "")

/-- The failure of a request that the service does not answer. -/
def unsupported : Failure := .of (.service .unsupported false "")

/-- A key as the service takes it: without white space around it and without empty components. A
separator at the end stays; the key without components is empty. -/
def normalKey (k : String) : String :=
  let blank := Text.Property.whiteSpace.members.has
  let cs := Path.dropEnd blank (k.toList.dropWhile blank)
  let parts := (Path.split cs).filter (!·.isEmpty)
  let closing := if !parts.isEmpty && cs.getLast? == some '/' then ['/'] else []
  String.ofList (['/'].intercalate parts ++ closing)

/-- Whether a key asks for what continues it. -/
def asksBelow (k : String) : Bool := k.isEmpty || k.toList.getLast? == some '/'

/-- The status of a key. The root is always there. -/
def status (t : ObjectTable) (key : String) : Except Failure ObjectStatus :=
  let k := normalKey key
  if asksBelow k then
    if k.isEmpty || t.objects.any (fun o => k.toList.isPrefixOf o.1.toList) then .ok ⟨true, 0, none⟩
    else .error notFound
  else
    match t.get? k with
    | some bytes => .ok ⟨false, UInt64.ofNat bytes.size, none⟩
    | none => .error notFound

/-- What follows `start` in a key up to its next separator, with the separator if there is one. -/
def step? (start k : String) : Option String :=
  match start.toList.isPrefixOf? k.toList with
  | none => none
  | some rest =>
    let name := rest.takeWhile (· != '/')
    let closing := if name.length < rest.length then "/" else ""
    some (start ++ String.ofList name ++ closing)

/-- The keys directly below `start`, each once. -/
def list (t : ObjectTable) (start : String) : List String :=
  (t.objects.filterMap (fun o => step? (normalKey start) o.1)).eraseDups

/-- The bytes of an object. -/
def read (t : ObjectTable) (key : String) : Except Failure ByteArray :=
  let k := normalKey key
  if asksBelow k then .error (.of (.service .isADirectory false "read path is a directory"))
  else
    match t.get? k with
    | some bytes => .ok bytes
    | none => .error notFound

/-- The table with an object written. -/
def write (t : ObjectTable) (key : String) (bytes : ByteArray) : Except Failure ObjectTable :=
  let k := normalKey key
  if asksBelow k then .error (.of (.service .isADirectory false "write path is a directory"))
  else .ok (t.insert k bytes)

end ObjectTable

end Harvest
