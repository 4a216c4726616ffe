import Harvest.Path

/-!
# Entries

What a store reports about one node of its tree: its identifier, whether it is a container, how
long it is, when it changed, and who may read it.
-/

namespace Harvest

/-- Containers list children; leaves have content. -/
inductive EntryKind where
  | container
  | leaf
deriving DecidableEq, Repr

/-- The name of a kind in rules and answers. -/
def EntryKind.label : EntryKind → String
  | .container => "directory"
  | .leaf => "file"

/-- One access-control entry as the store reports it. -/
structure AccessEntry where
  principal : String
  allow : Bool
  mask : UInt32
deriving DecidableEq, Repr

namespace AccessEntry

/-- The right to read data. -/
def readData : UInt32 := 0x00000001

/-- All rights. -/
def genericAll : UInt32 := 0x10000000

/-- The generic right to read. -/
def genericRead : UInt32 := 0x80000000

/-- Whether the mask holds any right that lets the principal read. -/
def grantsRead (e : AccessEntry) : Bool := e.mask &&& (readData ||| genericRead ||| genericAll) != 0

end AccessEntry

/-- A node of a store, as far as decisions need it. The two access lists are absent when the store
could not report them. -/
structure Entry where
  id : String
  kind : EntryKind
  length : UInt64
  modified : Int64
  access : Option (List AccessEntry)
  containerAccess : Option (List AccessEntry)
deriving DecidableEq, Repr

namespace Entry

/-- A leaf without access lists. -/
def leaf (id : String) (length : UInt64) (modified : Int64) : Entry :=
  ⟨id, .leaf, length, modified, none, none⟩

/-- A container without access lists; containers have no length. -/
def container (id : String) (modified : Int64) : Entry :=
  ⟨id, .container, 0, modified, none, none⟩

/-- The last component of the identifier. -/
def name (e : Entry) : String := Path.name e.id

/-- Whether the entry lists children. -/
def isContainer (e : Entry) : Bool := e.kind == .container

end Entry

end Harvest
