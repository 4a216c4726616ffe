import Harvest.Pattern
import Harvest.Text.Shortest

/-!
# Tests of event fields

A directive may ask for a field of an event, by name alone or with the value it has to have. What a
value denotes is decided by what it can be read as, the most specific kind first; what is nothing else
is a pattern for the text of the field.
-/

namespace Harvest.Log

/-- The value a field has to have. -/
inductive FieldValue where
  | flag (b : Bool)
  | real (x : Float)
  | notANumber
  | unsigned (n : UInt64)
  | signed (n : Int64)
  | pattern (source : List Char)

namespace FieldValue

/-- Whether a pattern asks where words begin or end in all of Unicode, which a field cannot be asked. -/
def asksWords : Pattern.Expr → Bool
  | .look (.wordBoundary u) => u
  | .look (.notWordBoundary u) => u
  | .look (.wordStart u) => u
  | .look (.wordEnd u) => u
  | .look (.halfWordStart u) => u
  | .look (.halfWordEnd u) => u
  | .repetition _ _ _ body => asksWords body
  | .group _ body => asksWords body
  | .seq a b => asksWords a || asksWords b
  | .alt a b => asksWords a || asksWords b
  | _ => false

/-- Reads a value; `none` if it could only be a pattern and is not a valid one. -/
def ofText? (cs : List Char) : Option FieldValue :=
  if cs == "true".toList then some (.flag true)
  else if cs == "false".toList then some (.flag false)
  else if let some n := Text.uint64? cs then some (.unsigned n)
  else if let some n := Text.int64? cs then some (.signed n)
  else if let some x := Text.Shortest.float? cs then
    some (if x.isNaN then .notANumber else .real x)
  else
    match Pattern.parse? cs with
    | some p => if asksWords p.expr then none else some (.pattern cs)
    | none => none

/-- The text of a value. -/
def text : FieldValue → List Char
  | flag b => (if b then "true" else "false").toList
  | real x => Text.Shortest.text x
  | notANumber => "NaN".toList
  | unsigned n => Text.decimal n.toNat
  | signed n => Text.signedDecimal n.toInt
  | pattern source => source

/-- The place of the kind of a value among the kinds. -/
def rank : FieldValue → Nat
  | flag _ => 0
  | real _ => 1
  | notANumber => 2
  | unsigned _ => 3
  | signed _ => 4
  | pattern _ => 5

/-- Compares values: kinds first, then within a kind. -/
def compare : FieldValue → FieldValue → Ordering
  | flag a, flag b => Ord.compare a b
  | real a, real b => if a < b then .lt else if b < a then .gt else .eq
  | unsigned a, unsigned b => Ord.compare a b
  | signed a, signed b => Ord.compare a.toInt b.toInt
  | pattern a, pattern b => Ord.compare (String.ofList a) (String.ofList b)
  | a, b => Ord.compare a.rank b.rank

end FieldValue

/-- A field that an event has to have, and perhaps the value of it. -/
structure FieldTest where
  name : List Char
  value : Option FieldValue

namespace FieldTest

/-- Reads a test; what follows a second equals sign is ignored. -/
def ofText? (cs : List Char) : Option FieldTest :=
  let name := cs.takeWhile (· != '=')
  match cs.dropWhile (· != '=') with
  | [] => some ⟨name, none⟩
  | _ :: rest => (FieldValue.ofText? (rest.takeWhile (· != '='))).map (fun v => ⟨name, some v⟩)

/-- The text of a test. -/
def text (t : FieldTest) : List Char :=
  match t.value with
  | some v => t.name ++ '=' :: v.text
  | none => t.name

/-- Compares tests: those of values are more specific. -/
def compare (s t : FieldTest) : Ordering :=
  let names := Ord.compare (String.ofList s.name) (String.ofList t.name)
  match s.value, t.value with
  | some _, none => .gt
  | none, some _ => .lt
  | none, none => names
  | some u, some v => names.then (u.compare v)

end FieldTest

end Harvest.Log
