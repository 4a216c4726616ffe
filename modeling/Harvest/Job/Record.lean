import Harvest.Document
import Harvest.Failure.Retrying
import Harvest.Substitution
import Harvest.Rule

/-!
# Parts of a job as documents

How rule trees, substitutions and policies for retries are written down.
-/

namespace Harvest

open Document

/-- The names of the kinds of entries; each has a second name. -/
def EntryKind.names : List (String × EntryKind) :=
  [("directory", .container), ("container", .container), ("file", .leaf), ("leaf", .leaf)]

/-- Reads a kind of entry. -/
def EntryKind.ofDocument? : Document → Option EntryKind := choice? names

/-- The names of effects. -/
def Effect.names : List (String × Effect) := [("include", .accept), ("exclude", .reject)]

/-- Reads an effect. -/
def Effect.ofDocument? : Document → Option Effect := choice? names

/-- The name of an effect. -/
def Effect.label : Effect → String
  | accept => "include"
  | reject => "exclude"

/-- The names of demands on the content. -/
def Indexable.names : List (String × Indexable) := [("any", .any), ("yes", .yes), ("no", .no)]

/-- Reads a demand on the content. -/
def Indexable.ofDocument? : Document → Option Indexable := choice? names

/-- The name of a demand. -/
def Indexable.label : Indexable → String
  | any => "any"
  | yes => "yes"
  | no => "no"

namespace Rule

/-- Reads a rule. -/
def ofDocument? (d : Document) : Option Rule := do
  match ← d.fields? ["action", "filespec", "kind", "indexable"] false with
  | [effect, glob, kind, indexable] =>
    return ⟨← required? Effect.ofDocument? effect, ← required? text? glob,
      ← withDefault? none (optional? EntryKind.ofDocument?) kind,
      ← withDefault? .any Indexable.ofDocument? indexable⟩
  | _ => none

/-- Writes a rule with all its fields. -/
def toDocument (r : Rule) : Document :=
  .table [("action", .text r.effect.label), ("filespec", .text r.glob),
    ("kind", ofOption (fun k => .text k.label) r.kind), ("indexable", .text r.indexable.label)]

end Rule

namespace Scope

/-- Reads a scope. -/
def ofDocument? (d : Document) : Option Scope := do
  match ← d.fields? ["path", "rule"] false with
  | [path, rules] =>
    return ⟨← required? text? path, ← withDefault? [] (listOf? Rule.ofDocument?) rules⟩
  | _ => none

/-- Writes a scope. -/
def toDocument (s : Scope) : Document :=
  .table [("path", .text s.path), ("rule", ofList Rule.toDocument s.rules)]

end Scope

namespace RuleTree

/-- Reads a rule tree. -/
def ofDocument? (d : Document) : Option RuleTree := do
  match ← d.fields? ["max_length", "scope"] false with
  | [maxLength, scopes] =>
    return ⟨← withDefault? none (optional? uint64?) maxLength,
      ← withDefault? [] (listOf? Scope.ofDocument?) scopes⟩
  | _ => none

/-- Writes a rule tree. -/
def toDocument (t : RuleTree) : Document :=
  .table [("max_length", ofOption (fun n => .nat n.toNat) t.maxLength),
    ("scope", ofList Scope.toDocument t.scopes)]

end RuleTree

namespace Substitution

/-- Reads a substitution. -/
def ofDocument? (d : Document) : Option Substitution := do
  match ← d.fields? ["pattern", "replacement"] false with
  | [pattern, replacement] => return ⟨← required? text? pattern, ← required? text? replacement⟩
  | _ => none

/-- Writes a substitution. -/
def toDocument (s : Substitution) : Document :=
  .table [("pattern", .text s.pattern), ("replacement", .text s.replacement)]

end Substitution

namespace RetryPolicy

/-- Reads a policy; what is left out is as in the standard policy. -/
def ofDocument? (d : Document) : Option RetryPolicy := do
  match ← d.fields? ["max_attempts", "max_consecutive", "backoff_ms", "max_backoff_ms"] false with
  | [attempts, consecutive, backoff, maxBackoff] =>
    return ⟨← withDefault? standard.maxAttempts uint32? attempts,
      ← withDefault? standard.maxConsecutive uint32? consecutive,
      ← withDefault? standard.backoffMs uint64? backoff,
      ← withDefault? standard.maxBackoffMs uint64? maxBackoff⟩
  | _ => none

/-- Writes a policy. -/
def toDocument (p : RetryPolicy) : Document :=
  .table [("max_attempts", .nat p.maxAttempts.toNat),
    ("max_consecutive", .nat p.maxConsecutive.toNat), ("backoff_ms", .nat p.backoffMs.toNat),
    ("max_backoff_ms", .nat p.maxBackoffMs.toNat)]

end RetryPolicy

end Harvest
