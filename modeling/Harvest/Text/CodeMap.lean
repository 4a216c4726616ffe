import Harvest.Text.CodeSet

/-!
# Maps between code points

Case mappings send runs of consecutive codes, or of every second code, to runs of the same shape. A
run is written `A-B>T`, or `A-B/2>T` for every second code, and sends `A + i` to `T + i`.
-/

namespace Harvest.Text

/-- A run of codes from `first` to `last` in steps of `step`, sent to the run from `target` on. -/
structure CodeRun where
  first : Nat
  last : Nat
  step : Nat
  target : Nat

/-- Runs in ascending order of their first codes. -/
structure CodeMap where
  runs : Array CodeRun

namespace CodeRun

/-- Reads one run. -/
def ofHex (cs : List Char) : CodeRun :=
  let source := cs.takeWhile (· != '>')
  let target := CodeSet.hexNumber (cs.dropWhile (· != '>') |>.drop 1)
  let bounds := CodeSet.rangeOfHex (source.takeWhile (· != '/'))
  ⟨bounds.1, bounds.2, if source.contains '/' then 2 else 1, target⟩

/-- The image of a code, if the run has it. -/
def find? (r : CodeRun) (n : Nat) : Option Nat :=
  if r.first ≤ n ∧ n ≤ r.last ∧ (n - r.first) % r.step = 0 then some (r.target + (n - r.first))
  else none

/-- Every code of the run with its image. -/
def pairs (r : CodeRun) : List (Nat × Nat) :=
  (List.range ((r.last - r.first) / r.step + 1)).map
    (fun i => (r.first + i * r.step, r.target + i * r.step))

end CodeRun

namespace CodeMap

/-- Reads a map written as runs parted by blanks. -/
def ofHex (text : String) : CodeMap := ⟨((CodeSet.words [] text.toList).map CodeRun.ofHex).toArray⟩

/-- The image of a code in the runs with index below `hi`, trying the later runs first. -/
def searchBelow (runs : Array CodeRun) (n : Nat) : Nat → Option Nat
  | 0 => none
  | i + 1 =>
    match runs[i]? with
    | none => searchBelow runs n i
    | some r =>
      match r.find? n with
      | some t => some t
      | none => searchBelow runs n i

/-- How many runs at the front start at or before `n`, looking between `lo` and `hi`. -/
def countStarts (runs : Array CodeRun) (n lo hi : Nat) : Nat :=
  if lo < hi then
    let mid := (lo + hi) / 2
    match runs[mid]? with
    | none => lo
    | some r => if r.first ≤ n then countStarts runs n (mid + 1) hi else countStarts runs n lo mid
  else lo
termination_by hi - lo

/-- The image of a code, if the map moves it. Of the runs that start at or before the code only the
last few can hold it, since two runs interleave at most; four are tried. -/
def find? (m : CodeMap) (n : Nat) : Option Nat :=
  let count := countStarts m.runs n 0 m.runs.size
  searchBelow (m.runs.extract (count - 4) count) n (min 4 count)

/-- Every code the map moves, with its image. -/
def pairs (m : CodeMap) : List (Nat × Nat) := m.runs.toList.flatMap CodeRun.pairs

end CodeMap

end Harvest.Text
