import Harvest.Text.Category
import Harvest.Text.Script
import Harvest.Text.Property
import Harvest.Text.CaseTable

/-!
# Character classes

The sets that patterns name: digits, blanks and word characters, the classes in `[:...:]`, and the
properties in `\p`. Also the closure of a set under change of case.
-/

namespace Harvest.Pattern

open Text

namespace Class

/-- Decimal digits of any script. -/
def digit : CodeSet := Category.decimalNumber

/-- White space. -/
def space : CodeSet := Property.whiteSpace.members

/-- Letters, marks, decimal digits, connecting punctuation and the two joiners. -/
def word : CodeSet :=
  .ofRanges ([Property.alphabetic.members, Category.nonspacingMark, Category.spacingMark,
    Category.enclosingMark, Category.decimalNumber, Category.connectorPunctuation,
    Property.joinControl.members].flatMap (fun s => s.ranges.toList))

/-- ASCII digits. -/
def asciiDigit : CodeSet := .ofHex "30-39"

/-- ASCII blanks. -/
def asciiSpace : CodeSet := .ofHex "9-D 20"

/-- ASCII letters, digits and the underscore. -/
def asciiWord : CodeSet := .ofHex "30-39 41-5A 5F 61-7A"

/-- The class of a name in `[:...:]`. -/
def ofAsciiName? : String → Option CodeSet
  | "alnum" => some (.ofHex "30-39 41-5A 61-7A")
  | "alpha" => some (.ofHex "41-5A 61-7A")
  | "ascii" => some (.ofHex "0-7F")
  | "blank" => some (.ofHex "9 20")
  | "cntrl" => some (.ofHex "0-1F 7F")
  | "digit" => some (.ofHex "30-39")
  | "graph" => some (.ofHex "21-7E")
  | "lower" => some (.ofHex "61-7A")
  | "print" => some (.ofHex "20-7E")
  | "punct" => some (.ofHex "21-2F 3A-40 5B-60 7B-7E")
  | "space" => some (.ofHex "9-D 20")
  | "upper" => some (.ofHex "41-5A")
  | "word" => some (.ofHex "30-39 41-5A 5F 61-7A")
  | "xdigit" => some (.ofHex "30-39 41-46 61-66")
  | _ => none

/-- Property names are compared without a leading `is`, and without case, blanks, hyphens,
underscores and whatever is not ASCII. The abbreviation `isc` is a name of its own. -/
def normalise (name : List Char) : String :=
  let plain := fun cs : List Char =>
    (cs.filter (fun c => c != ' ' && c != '_' && c != '-' && c.toNat < 0x80)).map Char.toLower
  match name with
  | 'i' :: 's' :: rest | 'I' :: 's' :: rest | 'i' :: 'S' :: rest | 'I' :: 'S' :: rest =>
    if plain rest = ['c'] then "isc" else String.ofList (plain rest)
  | _ => String.ofList (plain name)

/-- The set of a property given by one name: a binary property, a category, or a script. -/
def ofName? (name : List Char) : Option CodeSet :=
  let n := normalise name
  let property := if n = "cf" ∨ n = "sc" ∨ n = "lc" then none else Property.find? n
  (property.or (Category.find? n)).or ((Script.find? n).map (·.members))

/-- The set of a property given by its name and a value. -/
def ofNameValue? (name value : List Char) : Option CodeSet :=
  let v := normalise value
  match normalise name with
  | "gc" | "generalcategory" => Category.find? v
  | "sc" | "script" => (Script.find? v).map (·.members)
  | "scx" | "scriptextensions" => (Script.find? v).map Script.extension
  | _ => none

/-- Adds every character that differs from a member in case only: first the representative of each
member's case class, then every character that has a representative in the set. -/
def closeCase (s : CodeSet) : CodeSet :=
  let pairs := caseClassTable.pairs
  let up := pairs.filterMap (fun p => if s.contains p.1 then some (p.2, p.2) else none)
  let withHeads := s.union (.ofRanges up)
  let down := pairs.filterMap (fun p => if withHeads.contains p.2 then some (p.1, p.1) else none)
  withHeads.union (.ofRanges down)

/-- Adds the other case of every ASCII letter in the set. -/
def closeAsciiCase (s : CodeSet) : CodeSet :=
  let letters := (List.range 26).flatMap (fun i => [(0x41 + i, 0x61 + i), (0x61 + i, 0x41 + i)])
  s.union (.ofRanges
    (letters.filterMap (fun p => if s.contains p.1 then some (p.2, p.2) else none)))

end Class

end Harvest.Pattern
