import Std.Data.TreeMap
import Harvest.Crawl.Outcome

/-!
# Reports

What a pass over a store comes to: how many entries met which fate, which were left to a later pass,
and the version tokens that the next pass starts from.
-/

namespace Harvest

/-- Version tokens by identifier. -/
abbrev VersionMap := Std.TreeMap String String

/-- An entry that is left to a later pass. -/
structure Deferral where
  id : String
  message : String
  window : Window
deriving DecidableEq, Repr

/-- The summary of a pass. -/
structure Report where
  ingested : Nat
  deleted : Nat
  skipped : Nat
  unchanged : Nat
  bytes : Nat
  deferred : List Deferral
  versions : VersionMap

namespace Report

/-- Nothing has happened. -/
def empty : Report := ⟨0, 0, 0, 0, 0, [], ∅⟩

/-- Counts an outcome. -/
def count (r : Report) : Outcome → Report
  | .ingest _ _ bytes => { r with ingested := r.ingested + 1, bytes := r.bytes + bytes }
  | .delete _ _ => { r with deleted := r.deleted + 1 }
  | .skip _ .unchanged _ => { r with unchanged := r.unchanged + 1 }
  | .skip _ (.container _) _ => { r with skipped := r.skipped + 1 }

/-- Remembers a token for an identifier, if there is one. -/
def remember (r : Report) (id : String) : Option String → Report
  | some token => { r with versions := r.versions.insert id token }
  | none => r

/-- Counts an outcome and remembers its token. -/
def record (r : Report) (o : Outcome) : Report := (r.count o).remember o.id o.token?

/-- Notes an entry that is left to a later pass. -/
def defer (r : Report) (d : Deferral) : Report := { r with deferred := r.deferred ++ [d] }

end Report

/-- Entries of `previous` that lie strictly below an identifier. Identifiers come in the order of
their bytes, in which those with a common beginning follow each other: the scan goes from the first
that is not before the stem to the last that starts with it. The root is as short as its stem. -/
def VersionMap.below (previous : VersionMap) (id : String) : List (String × String) :=
  let tail := previous.toList.dropWhile (fun entry => entry.1 < Path.stem id)
  let block := tail.takeWhile (fun entry => (Path.stem id).toList.isPrefixOf entry.1.toList)
  block.filter (fun entry => 1 < entry.1.utf8ByteSize)

end Harvest
