import Harvest.Entry
import Harvest.Failure.Action

/-!
# Stores

A store is a tree of entries named by identifiers and read by calls that may fail. Listings and
content come in parts, and may break off after some of them.
-/

namespace Harvest

/-- The calls that a store answers. -/
inductive StoreCall where
  | present
  | isContainer
  | modified
  | length
  | children
  | content
  | access
  | containerAccess
deriving DecidableEq, Repr

namespace StoreCall

/-- The name of a call in messages. -/
def label : StoreCall → String
  | present => "exists"
  | isContainer => "is_container"
  | modified => "last_modified"
  | length => "length"
  | children => "list_children"
  | content => "open_content"
  | access => "get_acl"
  | containerAccess => "get_container_acl"

/-- Every call. -/
def all : List StoreCall :=
  [present, isContainer, modified, length, children, content, access, containerAccess]

/-- The call of a name. -/
def ofLabel? (s : String) : Option StoreCall := all.find? (·.label == s)

end StoreCall

/-- The children of a container in order, and the failure that ended the listing early. -/
structure Listing where
  children : List String
  failure : Option Failure
deriving DecidableEq, Repr

/-- A complete listing. -/
def Listing.ofList (children : List String) : Listing := ⟨children, none⟩

/-- The pieces of an entry's content in order, and the failure that ended reading early. -/
structure Content where
  pieces : List ByteArray
  failure : Option Failure

namespace Content

/-- Content that is read in one piece. -/
def ofBytes (bytes : ByteArray) : Content := ⟨[bytes], none⟩

/-- All bytes that were read. -/
def bytes (c : Content) : ByteArray := c.pieces.foldl (· ++ ·) .empty

/-- All bytes, unless reading ended early. -/
def toResult (c : Content) : Except Failure ByteArray :=
  match c.failure with
  | some f => .error f
  | none => .ok c.bytes

end Content

/-- A store. Each call is a single request. -/
structure Store (m : Type → Type) where
  /-- What identifiers start with that is no part of paths and URIs. -/
  idStart : String
  present : String → Action m Bool
  isContainer : String → Action m Bool
  /-- Milliseconds since the start of 1970. -/
  modified : String → Action m Int64
  /-- Length of the content in bytes, zero for containers. -/
  length : String → Action m UInt64
  children : String → Action m Listing
  content : String → Action m Content
  /-- The access list of an entry; absent if the store has no such thing. -/
  access : String → Action m (Option (List AccessEntry))
  /-- The access list of the container or share an entry lies in. -/
  containerAccess : String → Action m (Option (List AccessEntry))

end Harvest
