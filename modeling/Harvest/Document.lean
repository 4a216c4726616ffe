import Harvest.Text.Numeral

/-!
# Documents

The common shape of what job files, state files and requests hold: scalars, lists and tables. A
table keeps its entries in order. Records are taken out of documents by name or by position, and a
field that is left out is told apart from one of the wrong shape.
-/

namespace Harvest

/-- A value of a data format. -/
inductive Document where
  | null
  | bool (b : Bool)
  | int (n : Int)
  /-- A number with a fraction or an exponent, or out of the range of integers, as written. -/
  | real (literal : String)
  | text (s : String)
  /-- A date or time, as written. -/
  | moment (literal : String)
  | list (items : List Document)
  | table (entries : List (String × Document))
deriving Inhabited

namespace Document

/-- The value under a key. -/
def get? (d : Document) (key : String) : Option Document :=
  match d with
  | table entries => (entries.find? (fun e => e.1 == key)).map (·.2)
  | _ => none

/-- The text of a text. -/
def text? : Document → Option String
  | text s => some s
  | _ => none

/-- The truth value of a truth value. -/
def bool? : Document → Option Bool
  | bool b => some b
  | _ => none

/-- The integer of an integer within bounds. -/
def intWithin? (min max : Int) : Document → Option Int
  | int n => if min ≤ n ∧ n ≤ max then some n else none
  | _ => none

/-- A natural number of at most `max`. -/
def natUpTo? (max : Nat) (d : Document) : Option Nat := (d.intWithin? 0 max).map Int.toNat

/-- An unsigned 64-bit word. -/
def uint64? (d : Document) : Option UInt64 := (d.natUpTo? (UInt64.size - 1)).map UInt64.ofNat

/-- An unsigned 32-bit word. -/
def uint32? (d : Document) : Option UInt32 := (d.natUpTo? (UInt32.size - 1)).map UInt32.ofNat

/-- A signed 64-bit word. -/
def int64? (d : Document) : Option Int64 :=
  (d.intWithin? Int64.minValue.toInt Int64.maxValue.toInt).map Int64.ofInt

/-- The elements of a list. -/
def list? : Document → Option (List Document)
  | list items => some items
  | _ => none

/-- The elements of a list, each read by `read`. -/
def listOf? {α : Type} (read : Document → Option α) (d : Document) : Option (List α) :=
  d.list?.bind (fun items => items.mapM read)

/-- Nothing for null, otherwise what `read` makes of the value. -/
def optional? {α : Type} (read : Document → Option α) : Document → Option (Option α)
  | null => some none
  | d => (read d).map some

/-- Whether a value holds nothing. -/
def isVoid : Document → Bool
  | null => true
  | list [] => true
  | table [] => true
  | _ => false

/-- One of the named choices: a text, or a table whose only key names it and holds nothing. -/
def choice? {α : Type} (choices : List (String × α)) : Document → Option α
  | text s => choices.lookup s
  | table [(s, d)] => if d.isVoid then choices.lookup s else none
  | _ => none

/-- The fields of a record by position in `names`: from a table by name, or from a list in order. A
moment is a record too, of one field that no other record has. With `closed`, other fields than those
in `names` are refused. -/
def fields? (names : List String) (closed : Bool) : Document → Option (List (Option Document))
  | table entries =>
    if closed && entries.any (fun e => !names.contains e.1) then none
    else some (names.map (fun n => (table entries).get? n))
  | list items =>
    if names.length < items.length then none
    else some ((items.map some) ++ List.replicate (names.length - items.length) none)
  | moment _ => if closed then none else some (names.map fun _ => none)
  | _ => none

/-- A field that has to be there. -/
def required? {α : Type} (read : Document → Option α) : Option Document → Option α
  | some d => read d
  | none => none

/-- A field that stands for `standard` when it is left out. -/
def withDefault? {α : Type} (standard : α) (read : Document → Option α) :
    Option Document → Option α
  | some d => read d
  | none => some standard

/-! ## Writing -/

/-- Null for nothing, otherwise what `write` makes of the value. -/
def ofOption {α : Type} (write : α → Document) : Option α → Document
  | some a => write a
  | none => null

/-- A list of what `write` makes of the values. -/
def ofList {α : Type} (write : α → Document) (values : List α) : Document := list (values.map write)

/-- A list of texts. -/
def texts (values : List String) : Document := ofList text values

/-- A natural number. -/
def nat (n : Nat) : Document := int n

end Document

end Harvest
