/-!
# Numerals

Reading and writing whole numbers. A reader is given the bound of the word the number has to fit
into and refuses what does not fit, so that "not a number" and "too large" are one answer: the text
denotes no such word.
-/

namespace Harvest.Text

/-- The value of a digit in a base up to sixteen; letters count from ten in either case. -/
def digit? (base : Nat) (c : Char) : Option Nat :=
  let v :=
    if c.isDigit then c.toNat - '0'.toNat
    else if 'a' ≤ c ∧ c ≤ 'f' then c.toNat - 'a'.toNat + 10
    else if 'A' ≤ c ∧ c ≤ 'F' then c.toNat - 'A'.toNat + 10
    else base
  if v < base then some v else none

/-- The number written by the digits `cs`, continuing from `acc`; `none` at a foreign character. -/
def digitsFrom? (base : Nat) : Nat → List Char → Option Nat
  | acc, [] => some acc
  | acc, c :: cs =>
    match digit? base c with
    | some d => digitsFrom? base (acc * base + d) cs
    | none => none

/-- The number written by one or more digits. -/
def digits? (base : Nat) : List Char → Option Nat
  | [] => none
  | cs => digitsFrom? base 0 cs

/-- A natural number of at most `max`: digits, with one plus sign allowed in front. -/
def natural? (max : Nat) (cs : List Char) : Option Nat :=
  let body := match cs with
    | '+' :: r => r
    | r => r
  (digits? 10 body).filter (· ≤ max)

/-- An integer between `min` and `max`: digits, with one sign allowed in front. -/
def integer? (min max : Int) (cs : List Char) : Option Int :=
  let value : Option Int := match cs with
    | '+' :: r => (digits? 10 r).map Int.ofNat
    | '-' :: r => (digits? 10 r).map (fun n => -Int.ofNat n)
    | r => (digits? 10 r).map Int.ofNat
  value.filter (fun n => min ≤ n ∧ n ≤ max)

/-- The unsigned 64-bit word a text denotes. -/
def uint64? (cs : List Char) : Option UInt64 :=
  (natural? (UInt64.size - 1) cs).map UInt64.ofNat

/-- The signed 64-bit word a text denotes. -/
def int64? (cs : List Char) : Option Int64 :=
  (integer? Int64.minValue.toInt Int64.maxValue.toInt cs).map Int64.ofInt

/-- Decimal digits of a number, most significant first. -/
def decimal (n : Nat) : List Char := Nat.toDigits 10 n

/-- Decimal text of an integer, with a minus sign when it is negative. -/
def signedDecimal : Int → List Char
  | .ofNat n => decimal n
  | .negSucc n => '-' :: decimal (n + 1)

/-- Digits of `n` in a base, padded with zeros to `width`. -/
def padded (base width n : Nat) : List Char :=
  let ds := Nat.toDigits base n
  List.replicate (width - ds.length) '0' ++ ds

/-- Two lowercase hexadecimal digits for each byte. -/
def hexText (bytes : ByteArray) : String :=
  String.ofList (bytes.toList.flatMap (fun b => padded 16 2 b.toNat))

end Harvest.Text
