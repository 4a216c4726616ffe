import Harvest.Text.Numeral

/-!
# Percent encoding of identifiers

In an internationalised identifier, letters and digits of ASCII, a few marks, and every character
beyond ASCII that is not a control stand for themselves. Any other character is written as the bytes
of its UTF-8 form, each as a percent sign and two uppercase hexadecimal digits.
-/

namespace Harvest.Text

/-- Marks that stand for themselves. -/
def plainMarks : List Char := "-._~/:@!$&'()*+,;=".toList

/-- Control characters. -/
def isControl (c : Char) : Bool := c.toNat < 0x20 || (0x7F ≤ c.toNat && c.toNat < 0xA0)

/-- Characters that stand for themselves. -/
def isPlain (c : Char) : Bool :=
  c.isAlphanum || plainMarks.contains c || (0x80 ≤ c.toNat && !isControl c)

/-- An uppercase hexadecimal digit. -/
def upperHexDigit (n : Nat) : Char := (Nat.digitChar n).toUpper

/-- A byte as a percent sign and two digits. -/
def percentByte (b : UInt8) : List Char :=
  ['%', upperHexDigit (b.toNat / 16), upperHexDigit (b.toNat % 16)]

/-- One character in encoded form. -/
def percentChar (c : Char) : List Char :=
  if isPlain c then [c] else (String.utf8EncodeChar c).flatMap percentByte

/-- A text in encoded form. -/
def percentEncode (cs : List Char) : List Char := cs.flatMap percentChar

end Harvest.Text
