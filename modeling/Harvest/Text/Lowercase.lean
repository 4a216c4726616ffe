import Harvest.Text.CaseTable
import Harvest.Text.Property

/-!
# Lowercase text

Lowercase of one character and of a whole text. They differ in one place: a capital sigma that ends
a word becomes the final sigma in a text, while on its own it has no word to end.
-/

namespace Harvest.Text

/-- The lowercase form of one character. The dotted capital I is the only one that becomes two
characters; ASCII is mapped without a table. -/
def lowerChar (c : Char) : List Char :=
  if c.toNat < 0x80 then [c.toLower]
  else if c = 'İ' then ['i', '\u0307']
  else match lowercaseTable.find? c.toNat with
    | some n => [Char.ofNat n]
    | none => [c]

/-- Each character in lowercase, on its own. -/
def lowerEach (s : String) : List Char := s.toList.flatMap lowerChar

/-- Whether the first character that is not ignored in case context is a cased letter. -/
def startsCased (cs : List Char) : Bool :=
  match cs.dropWhile Property.caseIgnorable.members.has with
  | [] => false
  | c :: _ => Property.cased.members.has c

/-- Lowercase of what follows `before`, which is given backwards. -/
def lowerFrom (before : List Char) : List Char → List Char
  | [] => []
  | c :: rest =>
    let image :=
      if c = 'Σ' then [if startsCased before && !startsCased rest then 'ς' else 'σ']
      else lowerChar c
    image ++ lowerFrom (c :: before) rest

/-- A text in lowercase; a capital sigma after a cased letter and before none is final. -/
def lowercase (s : String) : String := String.ofList (lowerFrom [] s.toList)

end Harvest.Text
