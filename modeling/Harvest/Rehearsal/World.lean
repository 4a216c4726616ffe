import Harvest.Crawl.Sink
import Harvest.FileTree
import Harvest.Monitor
import Harvest.Store.Objects

/-!
# Rehearsals

A crawl can be rehearsed without any service: the time stands still but for pauses, calls fail where a
script says so, and everything that happens is written down.
-/

namespace Harvest.Rehearsal

/-- What the script has in store for one call. -/
structure Cue where
  /-- The crawl is cancelled as the call is made. -/
  cancels : Bool
  /-- The call fails. -/
  failure : Option Failure
deriving Repr

/-- What the receiver was told. -/
inductive SinkEvent where
  | ingested (request : Delivery) (bytes : ByteArray)
  | deleted (id : String)
  | skipped (id : String) (reason : SkipReason)
  | recorded (activity : Activity)

/-- An entry of a store that is kept in memory. -/
structure Node where
  isContainer : Bool
  content : ByteArray
  modified : Int64
  access : Option (List AccessEntry)
  /-- The children that are listed, if not those that lie directly below. -/
  children : Option (List String)

/-- A store that is kept in memory. -/
structure NodeTable where
  idStart : String
  containerAccess : Option (List AccessEntry)
  nodes : List (String × Node)

/-- The state of a rehearsal. What has been written down is listed last first. -/
structure World where
  now : Moment
  cancelled : Bool
  /-- When the crawl is going to be cancelled. -/
  cancelAt : Option Moment
  /-- What is in store for calls, by name of the call and identifier. -/
  script : List ((String × String) × Cue)
  /-- The calls made to the store. -/
  calls : List (String × String)
  warnings : List Warning
  events : List SinkEvent
  /-- The lines of the answer that a program has printed. -/
  printed : List String
  /-- The lines that a program has printed about its run. -/
  complaints : List String
  /-- The scratch copies that exist, by path. -/
  copies : List (String × ByteArray)
  table : NodeTable
  files : FileTree
  objects : ObjectTable

namespace World

/-- A rehearsal that has not begun. -/
def start : World where
  now := 0
  cancelled := false
  cancelAt := none
  script := []
  calls := []
  warnings := []
  events := []
  printed := []
  complaints := []
  copies := []
  table := ⟨"", none, []⟩
  files := .empty
  objects := ⟨[]⟩

/-- Takes the next cue for a call out of the script. -/
def takeCue (call id : String) : StateM World (Option Cue) := do
  let w ← get
  match w.script.find? (fun c => c.1 == (call, id)) with
  | none => return none
  | some (_, cue) =>
    set { w with script := w.script.eraseP (fun c => c.1 == (call, id)) }
    return some cue

/-- Acts on the next cue for a call. -/
def perform (call id : String) : Action (StateM World) Unit := ExceptT.mk do
  match ← takeCue call id with
  | none => return .ok ()
  | some cue =>
    modify fun w => { w with cancelled := w.cancelled || cue.cancels }
    return match cue.failure with
      | some f => .error f
      | none => .ok ()

/-- Waits for so many milliseconds. A cancellation that falls into the wait ends it. -/
def pause (delay : Nat) : StateM World Bool := do
  let w ← get
  if w.cancelled then return true
  let ending := w.now + delay
  match w.cancelAt.filter (· ≤ ending) with
  | some t =>
    set { w with now := max w.now t, cancelled := true }
    return true
  | none =>
    set { w with now := ending }
    return false

/-- The process around the crawl. -/
def monitor : Monitor (StateM World) where
  now := return (← get).now
  isCancelled := return (← get).cancelled
  pause := pause
  warn := fun w => modify fun world => { world with warnings := w :: world.warnings }

/-- A receiver that keeps what it is handed. -/
def sink : Sink (StateM World) where
  ingest := fun request content => do
    perform "sink.ingest" request.id
    let bytes ← Action.ofResult content.toResult
    modify fun w => { w with events := .ingested request bytes :: w.events }
    return bytes.size
  delete := fun id => do
    perform "sink.delete" id
    modify fun w => { w with events := .deleted id :: w.events }
  skip := fun id reason => do
    perform "sink.skip" id
    modify fun w => { w with events := .skipped id reason :: w.events }
  record := fun activity => modify fun w => { w with events := .recorded activity :: w.events }

/-- The path of the next scratch copy: the first that is not in use. -/
def freshCopy (location : String) (copies : List (String × ByteArray)) : String :=
  location ++ "/copy-" ++ String.ofList (Text.decimal copies.length)

/-- The bytes of a copy. -/
def copy? (w : World) (path : String) : Option ByteArray :=
  (w.copies.find? (fun c => c.1 == path)).map (·.2)

/-- Gives a copy other bytes. -/
def setCopy (path : String) (bytes : ByteArray) : StateM World Unit :=
  modify fun w => { w with copies := (path, bytes) :: w.copies.filter (fun c => c.1 != path) }

/-- The failure of a call on something that does not exist. -/
def noSuchFile : Failure := .errno Errno.noEntry

/-- Scratch copies in memory; with `missing` there is no place for them. -/
def scratch (location : String) (missing : Bool) : Scratch (StateM World) where
  location := location
  create := do
    if missing then throw noSuchFile
    let path := freshCopy location (← get).copies
    setCopy path .empty
    return path
  clear := fun path => setCopy path .empty
  append := fun path piece => do
    match (← get).copy? path with
    | some bytes => setCopy path (bytes ++ piece)
    | none => throw noSuchFile
  read := fun path => do
    match (← get).copy? path with
    | some bytes => return .ofBytes bytes
    | none => throw noSuchFile
  discard := fun path =>
    modify fun w => { w with copies := w.copies.filter (fun c => c.1 != path) }

end World

end Harvest.Rehearsal
