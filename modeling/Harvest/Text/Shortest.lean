import Harvest.Text.Numeral

/-!
# Shortest decimals

Binary fractions as decimal text: the fewest digits that read back as the same number, and of those
the nearest to it, written without an exponent. Readers round to the nearest number, to the even one
half-way, so the decimals that read back are those of an interval around the number. The text is found
grid by grid: with few digits first, the two neighbours of the number are tried.
-/

namespace Harvest.Text.Shortest

/-- A positive number `value / scale` and the interval of what reads back as it. -/
structure Target where
  value : Nat
  lower : Nat
  upper : Nat
  scale : Nat
  /-- Whether the ends of the interval read back too. -/
  closed : Bool

/-- The target of the number with the given fields of its word. -/
def Target.ofFields (exponent fraction : Nat) : Target :=
  let m := if exponent = 0 then fraction else fraction + (1 <<< 52)
  let e := max exponent 1
  let below := if fraction = 0 ∧ exponent > 1 then 1 else 2
  let up := 1 <<< (e - 1077)
  ⟨4 * m * up, (4 * m - below) * up, (4 * m + 2) * up, 1 <<< (1077 - e), m % 2 = 0⟩

/-- Whether the decimal `n · 10 ^ g` reads back. -/
def Target.holds (t : Target) (n : Nat) (g : Int) : Bool :=
  let x := n * Nat.pow 10 g.toNat * t.scale
  let shift := Nat.pow 10 (-g).toNat
  if t.closed then t.lower * shift ≤ x ∧ x ≤ t.upper * shift
  else t.lower * shift < x ∧ x < t.upper * shift

/-- The nearer of the two neighbours on the grid of `10 ^ g` that read back, if one does. -/
def Target.neighbour? (t : Target) (g : Int) : Option Nat :=
  let unit := t.scale * Nat.pow 10 g.toNat
  let v := t.value * Nat.pow 10 (-g).toNat
  let n := v / unit
  let nearer := if 2 * (v % unit) ≤ unit then [n, n + 1] else [n + 1, n]
  nearer.find? (t.holds · g)

/-- How many digits stand before the point; negative counts are zeros after it. -/
def Target.magnitude (t : Target) : Int :=
  let reaches (i : Nat) : Bool := t.value * Nat.pow 10 400 < t.scale * Nat.pow 10 i
  (((List.range 800).find? reaches).getD 800 : Int) - 400

/-- The shortest decimal, as a whole number and a power of ten. -/
def Target.decimal (t : Target) : Nat × Int :=
  let k := t.magnitude
  let grid (i : Nat) : Option (Nat × Int) :=
    let g := k - ((i : Int) + 1)
    (t.neighbour? g).map (fun n => (n, g))
  ((List.range 17).findSome? grid).getD (t.value, 0)

/-- The text of `n · 10 ^ g` without an exponent and without trailing zeros after the point. -/
def positional (n : Nat) (g : Int) : List Char :=
  if 0 ≤ g then Text.decimal (n * Nat.pow 10 g.toNat)
  else
    let places := (-g).toNat
    let digits := padded 10 (places + 1) n
    let whole := digits.take (digits.length - places)
    let rest := ((digits.drop (digits.length - places)).reverse.dropWhile (· == '0')).reverse
    if rest.isEmpty then whole else whole ++ '.' :: rest

/-- The text of a number. -/
def text (x : Float) : List Char :=
  let bits := x.toBits.toNat
  let exponent := bits / (1 <<< 52) % (1 <<< 11)
  let fraction := bits % (1 <<< 52)
  let body :=
    if exponent = 2047 then "inf".toList
    else if exponent = 0 ∧ fraction = 0 then ['0']
    else
      let (n, g) := (Target.ofFields exponent fraction).decimal
      positional n g
  if x.isNaN then "NaN".toList
  else if 1 <<< 63 ≤ bits then '-' :: body
  else body

/-! ## Reading -/

/-- The number `n · 10 ^ e`; what is far out of range is infinite or zero. -/
def scaled (n : Nat) (e : Int) : Float :=
  let size := (Nat.toDigits 10 n).length
  if n = 0 then 0
  else if e + size > 400 then 1.0 / 0.0
  else if e + size < -400 then 0
  else Float.ofScientific n (e < 0) e.natAbs

/-- Reads an unsigned number: digits with or without a point, and an exponent. -/
def unsigned? (cs : List Char) : Option Float := do
  let isExponent (c : Char) : Bool := c == 'e' || c == 'E'
  let mantissa := cs.takeWhile (!isExponent ·)
  let whole := mantissa.takeWhile (· != '.')
  let rest := (mantissa.dropWhile (· != '.')).drop 1
  let n ← digits? 10 (whole ++ rest)
  let exponent ← match cs.dropWhile (!isExponent ·) with
    | [] => some 0
    | _ :: es =>
      match es with
      | '-' :: ds => (digits? 10 ds).map (fun k => -(k : Int))
      | '+' :: ds => (digits? 10 ds).map Int.ofNat
      | ds => (digits? 10 ds).map Int.ofNat
  return scaled n (exponent - rest.length)

/-- Reads a number, which may also be called infinite or no number at all. -/
def float? (cs : List Char) : Option Float :=
  let (negative, body) := match cs with
    | '-' :: r => (true, r)
    | '+' :: r => (false, r)
    | r => (false, r)
  let size := match String.ofList (body.map Char.toLower) with
    | "inf" => some (1.0 / 0.0)
    | "infinity" => some (1.0 / 0.0)
    | "nan" => some (0.0 / 0.0)
    | _ => unsigned? body
  size.map (fun x => if negative then -x else x)

end Harvest.Text.Shortest
