import Harvest.Document
import Harvest.Version

/-!
# Versions as documents

How the contents of a version are written down, field by field.
-/

namespace Harvest

open Document

namespace AccessList

/-- Reads an access list. -/
def ofDocument? (d : Document) : Option AccessList := do
  match ← d.fields? ["allow", "deny"] false with
  | [allow, deny] =>
    return ⟨← required? (listOf? text?) allow, ← required? (listOf? text?) deny⟩
  | _ => none

/-- Writes an access list. -/
def toDocument (a : AccessList) : Document :=
  .table [("allow", texts a.allow), ("deny", texts a.deny)]

end AccessList

namespace PathAttribute

/-- Reads a path attribute. -/
def ofDocument? (d : Document) : Option PathAttribute := do
  match ← d.fields? ["name", "value"] false with
  | [name, value] => return ⟨← required? text? name, ← required? text? value⟩
  | _ => none

/-- Writes a path attribute. -/
def toDocument (a : PathAttribute) : Document :=
  .table [("name", .text a.name), ("value", .text a.value)]

end PathAttribute

/-- The names of flags. -/
def Ambiguity.names : List (String × Ambiguity) := all.map (fun a => (a.label, a))

namespace Version

/-- Reads the contents of a version. -/
def ofDocument? (d : Document) : Option Version := do
  match ← d.fields? ["container_acl", "entry_acl", "path_attribute", "ingest_uri", "modified",
      "length", "ambiguity"] false with
  | [containerAccess, entryAccess, pathAttribute, uri, modified, length, ambiguity] =>
    return ⟨← withDefault? none (optional? AccessList.ofDocument?) containerAccess,
      ← withDefault? none (optional? AccessList.ofDocument?) entryAccess,
      ← withDefault? none (optional? PathAttribute.ofDocument?) pathAttribute,
      ← required? text? uri, ← required? int64? modified, ← required? uint64? length,
      ← required? (choice? Ambiguity.names) ambiguity⟩
  | _ => none

/-- Writes the contents of a version. -/
def toDocument (v : Version) : Document :=
  .table [("container_acl", ofOption AccessList.toDocument v.containerAccess),
    ("entry_acl", ofOption AccessList.toDocument v.entryAccess),
    ("path_attribute", ofOption PathAttribute.toDocument v.pathAttribute),
    ("ingest_uri", .text v.uri), ("modified", .int v.modified.toInt),
    ("length", .nat v.length.toNat), ("ambiguity", .text v.ambiguity.label)]

end Version

end Harvest
