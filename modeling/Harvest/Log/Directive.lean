import Harvest.Log.FieldTest
import Harvest.Log.Level
import Harvest.Text.Category
import Harvest.Text.Property
import Harvest.Text.Utf8

/-!
# Log directives

A directive says how much is logged where: for one target, inside spans of one name, for events with a
certain field, or everywhere. It is written as the target, the span and the field in brackets, an
equals sign and the level; each part can be left out.
-/

namespace Harvest.Log

open Text

/-- How much is logged where. -/
structure Directive where
  target : Option (List Char)
  span : Option (List Char)
  field : Option FieldTest
  level : LogLevel

namespace Directive

/-- The directive for a target, or for everything. -/
def everywhere (target : Option String) (level : LogLevel) : Directive :=
  ⟨target.map String.toList, none, none, level⟩

/-! ## Reading -/

/--
What lies ahead of a reader: the text that decides, and the text that is taken. The first is the second
without blanks around it, so a directive with blanks in front of it is taken apart at the places where
the parts would be without them.
-/
structure Ahead where
  signs : List Char
  taken : List Char

namespace Ahead

/-- A whole directive. -/
def of (cs : List Char) : Ahead :=
  let blank := Property.whiteSpace.members.has
  ⟨((cs.dropWhile blank).reverse.dropWhile blank).reverse, cs⟩

/-- What lies ahead after `n` characters. -/
def skip (a : Ahead) (n : Nat) : Ahead := ⟨a.signs.drop n, a.taken.drop n⟩

/-- Takes what lies before the first of the given signs, and that sign. -/
def upTo? (a : Ahead) (signs : List Char) : Option (List Char × Char × Ahead) :=
  let n := (a.signs.takeWhile (!signs.contains ·)).length
  (a.signs[n]?).map (fun c => (a.taken.take n, c, a.skip (n + 1)))

end Ahead

/-- The characters a target can start with. -/
def startsTarget (c : Char) : Bool :=
  ['-', ':', '_'].contains c || Property.alphabetic.members.has c ||
    ((Category.find? "n").getD .empty).has c

/-- Reads the level at the end of a directive, which asks for everything where it is left out. -/
def level? (a : Ahead) : Option LogLevel :=
  if a.taken.isEmpty then some .trace else LogLevel.ofText? a.taken

/-- Reads the end of a directive: nothing, or a level. -/
def ending? (a : Ahead) : Option LogLevel :=
  match a.signs with
  | [] => some .trace
  | '=' :: _ => level? (a.skip 1)
  | _ => none

/-- Reads what is in brackets, and the rest of a directive for a target. -/
def inBrackets? (target : Option (List Char)) (a : Ahead) : Option Directive := do
  match ← a.upTo? [']', '\x7b'] with
  | (span, ']', rest) => return ⟨target, some span, none, ← ending? rest⟩
  | (span, _, rest) =>
    let (field, _, rest) ← rest.upTo? ['\x7d']
    if field.isEmpty then none
    let test ← FieldTest.ofText? field
    if rest.signs.head? != some ']' then none
    return ⟨target, if span.isEmpty then none else some span, some test, ← ending? (rest.skip 1)⟩

/-- Reads a directive. What is neither a level nor goes on is a target, logged in full. -/
def ofText? (cs : List Char) : Option Directive := do
  let a := Ahead.of cs
  match a.signs with
  | [] => none
  | '[' :: _ => inBrackets? none (a.skip 1)
  | c :: _ =>
    if !startsTarget c then none
    match a.upTo? ['=', '['] with
    | some (target, '=', rest) => return ⟨some target, none, none, ← level? rest⟩
    | some (target, _, rest) => inBrackets? (some target) rest
    | none =>
      match LogLevel.ofText? a.taken with
      | some l => return ⟨none, none, none, l⟩
      | none => return ⟨some a.taken, none, none, .trace⟩

/-! ## Writing -/

/-- The text of a directive. -/
def text (d : Directive) : List Char :=
  let field := match d.field with
    | some t => '\x7b' :: t.text ++ ['\x7d']
    | none => []
  let brackets :=
    if d.span.isSome ∨ d.field.isSome then '[' :: d.span.getD [] ++ field ++ [']'] else []
  let place := d.target.getD [] ++ brackets
  let mark := if d.target.isNone ∧ brackets.isEmpty then [] else ['=']
  place ++ mark ++ d.level.label.toList

/-! ## Order -/

/-- Whether a directive can be decided where an event is written, before it happens. -/
def isStatic (d : Directive) : Bool :=
  d.span.isNone && (d.field.bind FieldTest.value).isNone

/-- Whether a directive depends on the spans around an event or on what it carries. -/
def isDynamic (d : Directive) : Bool := d.span.isSome || d.field.isSome

/-- Compares what may be missing, which comes first. -/
def compareOption {α : Type} (f : α → α → Ordering) : Option α → Option α → Ordering
  | none, none => .eq
  | none, some _ => .lt
  | some _, none => .gt
  | some a, some b => f a b

/-- Compares texts. -/
def compareText (a b : List Char) : Ordering := compare (String.ofList a) (String.ofList b)

/--
Compares what directives are for, not their levels. The more specific one is greater: by the length of
the target, whether there is a span, and whether there is a field; then by the texts of these.
-/
def specificity (d e : Directive) : Ordering :=
  let size (d : Directive) : Option Nat := d.target.map byteLength
  (compareOption compare (size d) (size e)).then <|
    (compare d.span.isSome e.span.isSome).then <|
      (compare d.field.isSome e.field.isSome).then <|
        (compareOption compareText d.target e.target).then <|
          (compareOption compareText d.span e.span).then <|
            compareOption FieldTest.compare d.field e.field

/-- Adds a directive to a list with the most specific ones first; it replaces one for the same. -/
def insert (d : Directive) : List Directive → List Directive
  | [] => [d]
  | e :: es =>
    match d.specificity e with
    | .gt => d :: e :: es
    | .eq => d :: es
    | .lt => e :: insert d es

end Directive

end Harvest.Log
