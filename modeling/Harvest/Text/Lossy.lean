/-!
# Decoding bytes that may not be text

Bytes are read as UTF-8 one at a time. Where they stop being well formed, the longest part that could
have started a character is replaced by one replacement character and reading goes on with the next
byte, so that every sequence of bytes has a text.
-/

namespace Harvest.Text

/-- The character that stands for bytes that are no text. -/
def replacement : Char := '\uFFFD'

/-- A character of which some bytes have been read. -/
structure Partial where
  /-- The value of the bytes read. -/
  value : Nat
  /-- How many bytes are missing. -/
  missing : Nat
  /-- The least the next byte may be. -/
  low : UInt8
  /-- The most the next byte may be. -/
  high : UInt8
deriving DecidableEq, Repr

/-- What the first byte of a character leads to: a whole character, or part of one. Bytes that start
no character are replaced. -/
def leadByte (b : UInt8) : Char ⊕ Partial :=
  let n := b.toNat
  if b < 0x80 then .inl (Char.ofNat n)
  else if b < 0xC2 then .inl replacement
  else if b < 0xE0 then .inr ⟨n - 0xC0, 1, 0x80, 0xBF⟩
  else if b < 0xF0 then
    .inr ⟨n - 0xE0, 2, if b = 0xE0 then 0xA0 else 0x80, if b = 0xED then 0x9F else 0xBF⟩
  else if b < 0xF5 then
    .inr ⟨n - 0xF0, 3, if b = 0xF0 then 0x90 else 0x80, if b = 0xF4 then 0x8F else 0xBF⟩
  else .inl replacement

/-- A text under way: the characters read, last first, and the character that is not complete. -/
structure Decoding where
  chars : List Char
  pending : Option Partial

namespace Decoding

/-- Reads the first byte of a character. -/
def lead (chars : List Char) (b : UInt8) : Decoding :=
  match leadByte b with
  | .inl c => ⟨c :: chars, none⟩
  | .inr p => ⟨chars, some p⟩

/-- Reads one byte. -/
def feed (d : Decoding) (b : UInt8) : Decoding :=
  match d.pending with
  | none => lead d.chars b
  | some p =>
    if p.low ≤ b ∧ b ≤ p.high then
      let value := p.value * 64 + (b.toNat - 0x80)
      if p.missing ≤ 1 then ⟨Char.ofNat value :: d.chars, none⟩
      else ⟨d.chars, some ⟨value, p.missing - 1, 0x80, 0xBF⟩⟩
    else lead (replacement :: d.chars) b

/-- The characters in order; one that is not complete is replaced. -/
def finish (d : Decoding) : List Char :=
  (if d.pending.isSome then replacement :: d.chars else d.chars).reverse

end Decoding

/-- The text of any bytes. -/
def decodeLossy (bytes : List UInt8) : List Char :=
  (bytes.foldl Decoding.feed ⟨[], none⟩).finish

end Harvest.Text
