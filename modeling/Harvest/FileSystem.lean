import Harvest.Store

/-!
# File systems

The calls to a file system that crawls need. Paths are texts; links are followed.
-/

namespace Harvest

/-- Who owns a file, and what owner, group and others may do with it. -/
structure Ownership where
  owner : String
  group : String
  mode : Nat
deriving DecidableEq, Repr

/-- What is known of a file without reading it. -/
structure FileStatus where
  isDirectory : Bool
  length : UInt64
  /-- Nanoseconds since the start of 1970. -/
  modified : Int
  /-- Absent where files have no such thing. -/
  ownership : Option Ownership
deriving DecidableEq, Repr

/-- A file system. -/
structure FileSystem (m : Type → Type) where
  status : String → Action m FileStatus
  /-- The names in a directory, in any order. -/
  names : String → Action m (List String)
  read : String → Action m Content
  /-- Gives a file new content; makes the file if there is none. -/
  write : String → ByteArray → Action m Unit
  append : String → ByteArray → Action m Unit
  /-- Makes an empty file with a name of its own in a directory. -/
  create : String → Action m String
  remove : String → m Unit

namespace FileSystem

variable {m : Type → Type} [Monad m]

/-- Whether a failure says that there is no such file. -/
def saysAbsent (f : Failure) : Bool :=
  match f.outermost with
  | .system .notFound _ => true
  | _ => false

/-- Whether there is such a file. -/
def isPresent (fs : FileSystem m) (path : String) : Action m Bool := ExceptT.mk do
  match ← (fs.status path).run with
  | .ok _ => return .ok true
  | .error f => return if saysAbsent f then .ok false else .error f

/-- All bytes of a file. -/
def readAll (fs : FileSystem m) (path : String) : Action m ByteArray := do
  Action.ofResult (← fs.read path).toResult

/-- A path followed by one more component. -/
def join (path part : String) : String :=
  match path.toList.reverse with
  | [] => part
  | '/' :: _ => path ++ part
  | _ => path ++ "/" ++ part

end FileSystem

end Harvest
