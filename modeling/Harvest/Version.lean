import Harvest.Access

/-!
# Versions

The version of an entry is all that a crawl remembers of it: what decides whether the entry has to
be handed over again. It is a function of the entry, the rules and the job's settings, so an
unchanged entry keeps its version.
-/

namespace Harvest

/-- Whether inclusion is settled by the metadata or hinges on the content. -/
inductive Ambiguity where
  | forcedInclude
  | forcedExclude
  | dependsOnContent
deriving DecidableEq, Repr

namespace Ambiguity

/-- The letter of a flag in a token. -/
def letter : Ambiguity → Char
  | .forcedInclude => 'I'
  | .forcedExclude => 'X'
  | .dependsOnContent => 'F'

/-- The flag of a letter. -/
def ofLetter? : Char → Option Ambiguity
  | 'I' => some .forcedInclude
  | 'X' => some .forcedExclude
  | 'F' => some .dependsOnContent
  | _ => none

/-- The name of a flag in answers. -/
def label : Ambiguity → String
  | .forcedInclude => "forced-include"
  | .forcedExclude => "forced-exclude"
  | .dependsOnContent => "depends-on-fingerprint"

/-- Every flag. -/
def all : List Ambiguity := [.forcedInclude, .forcedExclude, .dependsOnContent]

/-- The flag that follows from inclusion if the content is indexable, and if it is not. -/
def ofOutcomes : Bool → Bool → Ambiguity
  | true, true => .forcedInclude
  | false, false => .forcedExclude
  | _, _ => .dependsOnContent

end Ambiguity

/-- A named value derived from the path of an entry. -/
structure PathAttribute where
  name : String
  value : String
deriving DecidableEq, Repr

/-- What a version token holds. -/
structure Version where
  containerAccess : Option AccessList
  entryAccess : Option AccessList
  pathAttribute : Option PathAttribute
  uri : String
  modified : Int64
  length : UInt64
  ambiguity : Ambiguity
deriving DecidableEq, Repr

end Harvest
