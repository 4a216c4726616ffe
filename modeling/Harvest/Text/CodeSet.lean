import Harvest.Text.Numeral

/-!
# Sets of code points

A set is kept as inclusive ranges in ascending order with a gap between each and the next, so a
membership test is a binary search and the set operations are sweeps over the range ends. Tables of
character properties are written as hexadecimal ranges and read by `ofHex`.
-/

namespace Harvest.Text

/-- Inclusive ranges of code points, ascending and apart. -/
structure CodeSet where
  ranges : Array (Nat × Nat)

namespace CodeSet

/-- The largest code point. -/
def maxCode : Nat := 0x10FFFF

/-- No code point. -/
def empty : CodeSet := ⟨#[]⟩

/-- Every code point. -/
def all : CodeSet := ⟨#[(0, maxCode)]⟩

/-- Joins ranges that touch or overlap, given in ascending order of their lower ends. -/
def join : List (Nat × Nat) → List (Nat × Nat)
  | [] => []
  | r :: rs =>
    match join rs with
    | [] => [r]
    | s :: ss => if s.1 ≤ r.2 + 1 then (r.1, max r.2 s.2) :: ss else r :: s :: ss

/-- The set of the codes in any of the given ranges. -/
def ofRanges (rs : List (Nat × Nat)) : CodeSet :=
  ⟨(join ((rs.filter (fun r => r.1 ≤ r.2)).mergeSort (fun a b => a.1 ≤ b.1))).toArray⟩

/-- Whether `n` is in one of the ranges with index in `[lo, hi)`. -/
def search (rs : Array (Nat × Nat)) (n lo hi : Nat) : Bool :=
  if lo < hi then
    let mid := (lo + hi) / 2
    match rs[mid]? with
    | none => false
    | some (a, b) =>
      if n < a then search rs n lo mid
      else if b < n then search rs n (mid + 1) hi
      else true
  else false
termination_by hi - lo

/-- Membership of a code point. -/
def contains (s : CodeSet) (n : Nat) : Bool := search s.ranges n 0 s.ranges.size

/-- Membership of a character. -/
def has (s : CodeSet) (c : Char) : Bool := s.contains c.toNat

/-- Codes in either set. -/
def union (s t : CodeSet) : CodeSet := ofRanges (s.ranges.toList ++ t.ranges.toList)

/-- The gaps before, between and after ascending ranges, from `low` on. -/
def gaps (low : Nat) : List (Nat × Nat) → List (Nat × Nat)
  | [] => if low ≤ maxCode then [(low, maxCode)] else []
  | (a, b) :: rs => (if low < a then [(low, a - 1)] else []) ++ gaps (b + 1) rs

/-- Codes outside the set. -/
def complement (s : CodeSet) : CodeSet := ⟨(gaps 0 s.ranges.toList).toArray⟩

/-- Codes in both sets. -/
def intersect (s t : CodeSet) : CodeSet := (s.complement.union t.complement).complement

/-- Codes in the first set and not in the second. -/
def difference (s t : CodeSet) : CodeSet := s.intersect t.complement

/-- Codes in exactly one of the sets. -/
def symmetricDifference (s t : CodeSet) : CodeSet := (s.union t).difference (s.intersect t)

/-- The set holding one character. -/
def single (c : Char) : CodeSet := ⟨#[(c.toNat, c.toNat)]⟩

/-- Splits at blanks and line breaks, dropping empty pieces; `word` is the piece being read. -/
def words (word : List Char) : List Char → List (List Char)
  | [] => if word.isEmpty then [] else [word.reverse]
  | c :: cs =>
    if c.isWhitespace then
      if word.isEmpty then words [] cs else word.reverse :: words [] cs
    else words (c :: word) cs

/-- The number in hexadecimal, or zero where there is none. -/
def hexNumber (cs : List Char) : Nat := (digits? 16 cs).getD 0

/-- A range `A-B`, or a single code `A`. -/
def rangeOfHex (cs : List Char) : Nat × Nat :=
  let low := cs.takeWhile (· != '-')
  match cs.dropWhile (· != '-') with
  | _ :: high => (hexNumber low, hexNumber high)
  | [] => (hexNumber low, hexNumber low)

/-- The set written as ascending hexadecimal ranges `A-B` and single codes, parted by blanks. -/
def ofHex (text : String) : CodeSet := ⟨((words [] text.toList).map rangeOfHex).toArray⟩

end CodeSet

end Harvest.Text
