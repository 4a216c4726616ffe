import Harvest.Packing
import Harvest.Version

/-!
# Version tokens

The written form of a version. Three optional groups come first, each behind a mark that says
whether it is there: the access list of the container, the access list of the entry, and the path
attribute. Then follow the URI, the modification time, the length, and one letter for the flag.
-/

namespace Harvest.Version

/-- The delimiter of packed fields. -/
def delimiter : Char := '+'

/-- The mark of a group that is there. -/
def present : Char := '+'

/-- The mark of a group that is left out. -/
def absent : Char := '-'

/-- A packed text. -/
def packText (s : String) : List Char := Packing.pack delimiter s.toList

/-- A group behind its mark. -/
def encodeGroup {α : Type} (body : α → List Char) : Option α → List Char
  | some a => present :: body a
  | none => [absent]

/-- The two lists of an access list. -/
def encodeAccess (a : AccessList) : List Char :=
  Packing.packList delimiter (a.allow.map String.toList) ++
    Packing.packList delimiter (a.deny.map String.toList)

/-- Name and value of a path attribute. -/
def encodeAttribute (a : PathAttribute) : List Char := packText a.name ++ packText a.value

/-- The characters of the token. -/
def encode (v : Version) : List Char :=
  encodeGroup encodeAccess v.containerAccess ++
  encodeGroup encodeAccess v.entryAccess ++
  encodeGroup encodeAttribute v.pathAttribute ++
  packText v.uri ++
  Packing.pack delimiter (Text.signedDecimal v.modified.toInt) ++
  Packing.pack delimiter (Text.decimal v.length.toNat) ++
  [v.ambiguity.letter]

/-- The token of a version. -/
def token (v : Version) : String := String.ofList v.encode

/-- Reads a mark: whether the group is there, and the text after the mark. Any other character is
left in place and read as an absent group. -/
def takeMark : List Char → Bool × List Char
  | [] => (false, [])
  | c :: cs =>
    if c = present then (true, cs) else if c = absent then (false, cs) else (false, c :: cs)

/-- Reads a group with the reader of its body. -/
def decodeGroup {α : Type} (body : List Char → α × List Char) (text : List Char) :
    Option α × List Char :=
  let mark := takeMark text
  if mark.1 then (some (body mark.2).1, (body mark.2).2) else (none, mark.2)

/-- Reads the two lists of an access list. -/
def decodeAccess (text : List Char) : AccessList × List Char :=
  let allow := Packing.unpackList delimiter text
  let deny := Packing.unpackList delimiter allow.2
  (⟨allow.1.map String.ofList, deny.1.map String.ofList⟩, deny.2)

/-- Reads name and value of a path attribute. -/
def decodeAttribute (text : List Char) : PathAttribute × List Char :=
  let name := Packing.unpack delimiter text
  let value := Packing.unpack delimiter name.2
  (⟨String.ofList name.1, String.ofList value.1⟩, value.2)

/-- Reads a version. Every text has one: what is missing at the end, or malformed, takes its
default, and the default flag is forced inclusion. -/
def decode (text : List Char) : Version :=
  let containerAccess := decodeGroup decodeAccess text
  let entryAccess := decodeGroup decodeAccess containerAccess.2
  let pathAttribute := decodeGroup decodeAttribute entryAccess.2
  let uri := Packing.unpack delimiter pathAttribute.2
  let modified := Packing.unpack delimiter uri.2
  let length := Packing.unpack delimiter modified.2
  { containerAccess := containerAccess.1
    entryAccess := entryAccess.1
    pathAttribute := pathAttribute.1
    uri := String.ofList uri.1
    modified := (Text.int64? modified.1).getD 0
    length := (Text.uint64? length.1).getD 0
    ambiguity := (length.2.head?.bind Ambiguity.ofLetter?).getD .forcedInclude }

/-- The version a token stands for. -/
def ofToken (token : String) : Version := decode token.toList

end Harvest.Version
