import Harvest.Location
import Harvest.Rule.Decision
import Harvest.Version.Token

/-!
# The version of an entry

Which version an entry has under the settings of a job and a rule tree. Nothing else enters into it:
no clock, no content, and no earlier version.
-/

namespace Harvest

/-- A job's settings for versions. -/
structure Encoder where
  containerAccess : AccessPolicy
  entryAccess : AccessPolicy
  mapping : Mapping

namespace Encoder

/-- Settings without security and without substitutions. -/
def standard : Encoder := ⟨.disabled, .disabled, .standard⟩

/-- The flag of an entry: whether inclusion hinges on its content. -/
def ambiguity (tree : RuleTree) (e : Entry) : Ambiguity :=
  .ofOutcomes (tree.wouldInclude e true) (tree.wouldInclude e false)

/-- The version of an entry in a store whose identifiers start with `start`. -/
def version (enc : Encoder) (tree : RuleTree) (start : String) (e : Entry) : Version where
  containerAccess := enc.containerAccess.resolve e.containerAccess
  entryAccess := enc.entryAccess.resolve e.access
  pathAttribute := (enc.mapping.pathAttribute? start e.id).map (fun a => ⟨a.1, a.2⟩)
  uri := enc.mapping.uri start e.id
  modified := e.modified
  length := e.length
  ambiguity := ambiguity tree e

/-- The version token of an entry. -/
def token (enc : Encoder) (tree : RuleTree) (start : String) (e : Entry) : String :=
  (enc.version tree start e).token

end Encoder

end Harvest
