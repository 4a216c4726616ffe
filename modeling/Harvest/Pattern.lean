import Harvest.Pattern.Search
import Harvest.Pattern.Syntax
import Harvest.Pattern.Template

/-!
# Patterns

A compiled pattern, its leftmost match in a text, and the replacement of that match by a template.
-/

namespace Harvest

/-- A valid pattern, ready to be searched for. -/
structure Pattern where
  program : Pattern.Program
  groups : Nat
  names : List (String × Nat)

namespace Pattern

/-- Compiles a pattern; `none` if it is not valid. -/
def compile? (source : String) : Option Pattern :=
  (parse? source.toList).map (fun p => ⟨p.expr.program, p.groups, p.names⟩)

/-- A match: the text before it, what it covers, the text after it, and its groups. -/
structure Match where
  before : List Char
  after : List Char
  group : Nat → List Char

/-- The characters between two marks, if both were set. -/
def slice (text : Array Char) (marks : Marks) (i : Nat) : List Char :=
  match marks.getD (2 * i) none, marks.getD (2 * i + 1) none with
  | some a, some b => (text.extract a b).toList
  | _, _ => []

/-- The leftmost match. -/
def find? (p : Pattern) (text : List Char) : Option Match :=
  let chars := text.toArray
  (p.program.search (2 * (p.groups + 1)) chars).map fun marks =>
    let start := (marks.getD 0 none).getD 0
    let stop := (marks.getD 1 none).getD chars.size
    { before := (chars.extract 0 start).toList
      after := (chars.extract stop chars.size).toList
      group := slice chars marks }

/-- What a piece of a template stands for; groups that do not exist are empty. -/
def expand (p : Pattern) (m : Match) : TemplatePart → List Char
  | .text c => [c]
  | .number n => if n ≤ p.groups then m.group n else []
  | .name s =>
    match p.names.find? (fun n => n.1 == s) with
    | some n => m.group n.2
    | none => []

/-- Replaces the leftmost match by a template; `none` if there is no match. -/
def replaceFirst? (p : Pattern) (template value : String) : Option String :=
  (p.find? value.toList).map fun m =>
    String.ofList
      (m.before ++ (TemplatePart.ofText template).flatMap (p.expand m) ++ m.after)

end Pattern

end Harvest
