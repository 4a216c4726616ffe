import Harvest.Entry

/-!
# Access lists

Who may and who may not read an entry, in the canonical form that version tokens carry: both lists
sorted and without repetition. Every list that is present denies one reserved principal, so an
access list that could not be read in full never widens access.
-/

namespace Harvest

/-- Principals that are allowed and denied. -/
structure AccessList where
  allow : List String
  deny : List String
deriving DecidableEq, Repr

/-- How a job obtains the access list of an entry. -/
inductive AccessPolicy where
  /-- Security is off and the list is absent. -/
  | disabled
  /-- The list is derived from what the store reports. -/
  | native
  /-- These principals are allowed, whatever the store reports. -/
  | forced (principals : List String)
deriving DecidableEq, Repr

/-- The principal that every access list denies. -/
def deniedToAll : String := "DEAD_AUTHORITY"

/-- Sorted by bytes, each principal once. -/
def canonicalPrincipals (names : List String) : List String :=
  (names.mergeSort (fun a b => a ≤ b)).eraseReps

namespace AccessList

/-- Principals named by the readable entries that allow, or that deny. -/
def readers (entries : List AccessEntry) (allow : Bool) : List String :=
  (entries.filter (fun e => e.grantsRead && e.allow == allow)).map (·.principal)

/-- The list derived from reported entries; those without a read right are ignored. -/
def ofEntries (entries : List AccessEntry) : AccessList where
  allow := canonicalPrincipals (readers entries true)
  deny := canonicalPrincipals (readers entries false ++ [deniedToAll])

end AccessList

namespace AccessPolicy

/-- No setting turns security off, an empty one selects the store's lists. -/
def ofTokens : Option (List String) → AccessPolicy
  | none => .disabled
  | some [] => .native
  | some tokens => .forced tokens

/-- The access list of an entry for which the store reports `reported`. -/
def resolve (p : AccessPolicy) (reported : Option (List AccessEntry)) : Option AccessList :=
  match p with
  | .disabled => none
  | .native => some (AccessList.ofEntries (reported.getD []))
  | .forced tokens => some ⟨canonicalPrincipals tokens, [deniedToAll]⟩

end AccessPolicy

end Harvest
