import Harvest.Substitution
import Harvest.Path
import Harvest.Text.Percent

/-!
# Locations

Under which URI an entry is handed over, and which value its path attribute has. Both start from the
identifier without the prefix of its store, and both may be changed by tables of the job.
-/

namespace Harvest

/-- A job's settings for what is derived from paths. -/
structure Mapping where
  /-- Name of the path attribute; none if there is to be no such attribute. -/
  attributeName : Option String
  pathTable : SubstitutionTable
  nameTable : SubstitutionTable
  uriTable : SubstitutionTable
  scheme : String

namespace Mapping

/-- The settings of a job that says nothing about paths. -/
def standard : Mapping := ⟨none, .empty, .empty, .empty, "file"⟩

/-- Drops the prefix of the store, in any case of its ASCII letters. -/
def stripPrefix (start id : String) : String :=
  match Path.after? start.toList id.toList with
  | some rest => String.ofList rest
  | none => id

/-- Passes the name after the last separator through the table for names. -/
def renameLast (m : Mapping) (path : String) : String :=
  String.ofList (Path.upToLastPiece path.toList) ++
    m.nameTable.apply (String.ofList (Path.lastPiece path.toList))

/-- The value of the path attribute, if there is to be one. -/
def pathAttribute? (m : Mapping) (start id : String) : Option (String × String) :=
  m.attributeName.map (fun name => (name, m.pathTable.apply (stripPrefix start id)))

/-- The URI of an entry. A table for URIs has the last word on it; without one the path is encoded
behind the scheme. -/
def uri (m : Mapping) (start id : String) : String :=
  let renamed := m.renameLast (stripPrefix start id)
  if !m.uriTable.isEmpty then m.uriTable.apply renamed
  else
    m.scheme ++ ":////" ++
      String.ofList (Text.percentEncode (Path.trimStart renamed.toList))

end Mapping

end Harvest
