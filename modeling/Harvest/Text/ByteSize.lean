import Harvest.Text.Numeral

/-!
# Sizes for readers

A number of bytes in the largest unit that leaves at least one, each unit being 1024 of the one before.
What is no whole number of units has two decimals, rounded to the nearest, to the even one half-way.
-/

namespace Harvest.Text.ByteSize

/-- The units, from the smallest. -/
def units : List String := ["B", "KiB", "MiB", "GiB", "TiB", "PiB", "EiB", "ZiB", "YiB"]

/-- The unit for `n` bytes and how many bytes it has. -/
def unitOf (n : Nat) : List String → Nat → String × Nat
  | [], size => ("", size)
  | [last], size => (last, size)
  | u :: us, size => if n < 1024 * size then (u, size) else unitOf n us (1024 * size)

/-- The quotient, rounded to the nearest whole number, half-way to the even one. -/
def nearest (n d : Nat) : Nat :=
  let q := n / d
  if 2 * (n % d) < d ∨ (2 * (n % d) = d ∧ q % 2 = 0) then q else q + 1

/-- The text of `n` bytes. -/
def text (n : Nat) : String :=
  let (unit, size) := unitOf n units 1
  let number :=
    if n % size = 0 then decimal (n / size)
    else
      let hundredths := nearest (100 * n) size
      decimal (hundredths / 100) ++ '.' :: padded 10 2 (hundredths % 100)
  String.ofList number ++ " " ++ unit

end Harvest.Text.ByteSize
