import Harvest.Pattern

/-!
# Substitutions

An ordered table of patterns with replacements. The first pattern that matches decides what becomes of
a value, and the others are not consulted; a value that no pattern matches is left as it is.
-/

namespace Harvest

/-- A pattern and its replacement, as written in a job. -/
structure Substitution where
  pattern : String
  replacement : String
deriving DecidableEq, Repr

/-- A substitution that is ready to be made. -/
structure CompiledSubstitution where
  pattern : Pattern
  replacement : String

/-- Substitutions in order. -/
structure SubstitutionTable where
  rows : List CompiledSubstitution

/-- A pattern that is not valid. -/
structure InvalidPattern where
  pattern : String
deriving DecidableEq, Repr

/-- The wording of the failure. -/
def InvalidPattern.message (e : InvalidPattern) : String := "Invalid remap pattern '" ++ e.pattern ++ "'"

namespace SubstitutionTable

/-- The table without rows. -/
def empty : SubstitutionTable := ⟨[]⟩

/-- Whether the table has no rows. -/
def isEmpty (t : SubstitutionTable) : Bool := t.rows.isEmpty

/-- Compiles substitutions in order, up to the first invalid pattern. -/
def compileRows : List Substitution → Except InvalidPattern (List CompiledSubstitution)
  | [] => .ok []
  | s :: rest =>
    match Pattern.compile? s.pattern with
    | none => .error ⟨s.pattern⟩
    | some p => (compileRows rest).map (⟨p, s.replacement⟩ :: ·)

/-- The table of substitutions as they are written. -/
def ofList (substitutions : List Substitution) : Except InvalidPattern SubstitutionTable :=
  (compileRows substitutions).map SubstitutionTable.mk

/-- Makes the first substitution whose pattern matches. -/
def apply (t : SubstitutionTable) (value : String) : String :=
  (t.rows.findSome? (fun r => r.pattern.replaceFirst? r.replacement value)).getD value

end SubstitutionTable

end Harvest
