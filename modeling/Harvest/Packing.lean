import Harvest.Text.Numeral
import Harvest.Text.Utf8

/-!
# Packed fields

A field is packed by escaping every delimiter and every escape character in it and closing it with
one bare delimiter. A list is packed as its length, as one field, followed by its elements. Fields
follow each other without further marks, so reading is a matter of going from one rest of the text
to the next; readers are total, and text that breaks off is read as far as it goes.
-/

namespace Harvest.Packing

/-- The character that takes the meaning from the one after it. -/
def escape : Char := '\\'

/-- The characters of a field with delimiters and escapes escaped. -/
def escaped (d : Char) : List Char → List Char
  | [] => []
  | c :: cs => if c = d ∨ c = escape then escape :: c :: escaped d cs else c :: escaped d cs

/-- One packed field. -/
def pack (d : Char) (value : List Char) : List Char := escaped d value ++ [d]

/-- The field at the front, and the text after its delimiter. A field that runs to the end of the
text is taken as it is, less an escape with nothing to act on. -/
def unpack (d : Char) : List Char → List Char × List Char
  | [] => ([], [])
  | c :: cs =>
    if c = escape then
      match cs with
      | [] => ([], [])
      | e :: rest => ((e :: (unpack d rest).1), (unpack d rest).2)
    else if c = d then ([], cs)
    else (c :: (unpack d cs).1, (unpack d cs).2)

/-- A packed list: the number of values, then the values. -/
def packList (d : Char) (values : List (List Char)) : List Char :=
  pack d (Text.decimal values.length) ++ (values.map (pack d)).flatten

/-- Up to `count` fields from the front, fewer if the text ends first. -/
def unpackMany (d : Char) : Nat → List Char → List (List Char) × List Char
  | 0, text => ([], text)
  | _ + 1, [] => ([], [])
  | count + 1, c :: cs =>
    let first := unpack d (c :: cs)
    let others := unpackMany d count first.2
    (first.1 :: others.1, others.2)

/-- The number of values a list announces. -/
def listCount? (field : List Char) : Option Nat := Text.natural? (UInt64.size - 1) field

/-- The list at the front, and the text after it; nothing is read if the count is malformed. -/
def unpackList? (d : Char) (text : List Char) : Option (List (List Char) × List Char) :=
  let field := unpack d text
  (listCount? field.1).map (fun count => unpackMany d count field.2)

/-- The list at the front; a malformed count reads as an empty list and leaves the text alone. -/
def unpackList (d : Char) (text : List Char) : List (List Char) × List Char :=
  (unpackList? d text).getD ([], text)

/-! ## Reading by byte offset -/

/-- The offset in `text` at which its final part `rest` starts. -/
def offsetOf (text rest : List Char) : Nat := Text.byteLength text - Text.byteLength rest

/-- The field at a byte offset and the offset after it; nothing, at the end, for an offset that
names no position. -/
def unpackAt (d : Char) (text : List Char) (start : Nat) : List Char × Nat :=
  match Text.dropBytes? text start with
  | none => ([], Text.byteLength text)
  | some rest => ((unpack d rest).1, offsetOf text (unpack d rest).2)

/-- The list at a byte offset and the offset after it; a malformed count, or an offset that names
no position, reads as an empty list and leaves the offset alone. -/
def unpackListAt (d : Char) (text : List Char) (start : Nat) : List (List Char) × Nat :=
  match (Text.dropBytes? text start).bind (unpackList? d) with
  | none => ([], start)
  | some (values, rest) => (values, offsetOf text rest)

end Harvest.Packing
