import Harvest.Proofs.ByteOrder
import Harvest.Proofs.Principals
import Harvest.Proofs.VersionToken
import Harvest.Version.Compute

/-!
# Who may read an entry

What a job says about an access list can be told without saying how the list is made: under each
policy the list is in one form, and names the principals it has to name and no others
(`AccessPolicy.Demands`). That leaves one list only, and it is the one that the job resolves
(`demands_iff`). Whatever the store reports, or fails to report, one principal is denied in every list
that is there, so no reader that relies on the list is let in by mistake.

Tokens carry the lists. A token is read back whole, so what was demanded of a list holds of the one
that is read from the token (`resolution_demanded`).
-/

namespace Harvest

variable {name : String} {names names' : List String} {reported : Option (List AccessEntry)}
  {p : AccessPolicy}

/-! ## One form -/

/-- Each principal once, in the order of their bytes. -/
def Increasing (names : List String) : Prop :=
  names.Pairwise (fun a b => Text.bytes a < Text.bytes b)

instance (names : List String) : Decidable (Increasing names) :=
  inferInstanceAs (Decidable (List.Pairwise _ names))

theorem increasing_iff : Increasing names ↔ names.Pairwise (· < ·) := by
  unfold Increasing
  simp only [Text.bytes_lt_iff]

-- capitals come before small letters, and ASCII before everything else
example : Increasing ["DEAD_AUTHORITY", "S-1", "a", "é"] := by decide +kernel

/-- **There is one canonical list of given principals**, and it is the one that is made. -/
theorem eq_canonicalPrincipals_iff :
    names' = canonicalPrincipals names ↔
      Increasing names' ∧ ∀ name, name ∈ names' ↔ name ∈ names := by
  constructor
  · rintro rfl
    exact ⟨increasing_iff.mpr (canonicalPrincipals_pairwise names), fun _ =>
      mem_canonicalPrincipals⟩
  · rintro ⟨hsorted, hmem⟩
    refine (increasing_iff.mp hsorted).eq_of_mem_iff (canonicalPrincipals_pairwise names) ?_
    intro name
    rw [hmem, mem_canonicalPrincipals]

/-- The form of an access list: both lists in order, and one principal denied in any case. -/
structure AccessList.Canonical (a : AccessList) : Prop where
  /-- The allowed principals are in order. -/
  allow : Increasing a.allow
  /-- The denied principals are in order. -/
  deny : Increasing a.deny
  /-- An access list that was not read in full lets nobody in. -/
  closed : deniedToAll ∈ a.deny

theorem canonical_iff {a : AccessList} :
    a.Canonical ↔ Increasing a.allow ∧ Increasing a.deny ∧ deniedToAll ∈ a.deny :=
  ⟨fun h => ⟨h.allow, h.deny, h.closed⟩, fun ⟨hallow, hdeny, hclosed⟩ => ⟨hallow, hdeny, hclosed⟩⟩

/-! ## Rights -/

/-- The rights to read are three bits of a mask. -/
theorem testBit_rights (i : Nat) :
    (AccessEntry.readData ||| AccessEntry.genericRead ||| AccessEntry.genericAll).toNat.testBit i =
      true ↔ i ∈ [0, 28, 31] := by
  by_cases hi : i < 32
  · revert i
    decide
  · have hsmall : (AccessEntry.readData ||| AccessEntry.genericRead |||
        AccessEntry.genericAll).toNat < 2 ^ i :=
      Nat.lt_of_lt_of_le (by decide) (Nat.pow_le_pow_right (by decide) (Nat.not_lt.mp hi))
    rw [Nat.testBit_lt_two_pow hsmall]
    refine iff_of_false Bool.false_ne_true (fun hmem => ?_)
    simp only [List.mem_cons, List.not_mem_nil, or_false] at hmem
    omega

/-- A mask lets read if it has one of them. -/
theorem AccessEntry.grantsRead_iff (a : AccessEntry) :
    a.grantsRead = true ↔ ∃ i ∈ [0, 28, 31], a.mask.toNat.testBit i = true := by
  unfold grantsRead
  rw [bne_iff_ne, ne_eq, ← UInt32.toNat_inj, UInt32.toNat_and]
  constructor
  · intro hne
    obtain ⟨i, hi⟩ := Nat.exists_testBit_of_ne_zero hne
    rw [Nat.testBit_and, Bool.and_eq_true] at hi
    exact ⟨i, (testBit_rights i).mp hi.2, hi.1⟩
  · rintro ⟨i, hmem, hbit⟩ hzero
    have hboth := Nat.testBit_and a.mask.toNat
      (readData ||| genericRead ||| genericAll).toNat i
    rw [hzero, hbit, (testBit_rights i).mpr hmem, UInt32.toNat_zero, Nat.zero_testBit] at hboth
    cases hboth

/-! ## What a policy demands -/

/-- What a policy demands of the access list of an entry for which the store reports `reported`. With
security off there is none. The store's own list allows whom an entry with a read right allows, and
denies whom one denies; a list of the job allows whom the job names. -/
def AccessPolicy.Demands (p : AccessPolicy) (reported : Option (List AccessEntry))
    (group : Option AccessList) : Prop :=
  match p with
  | .disabled => group = none
  | .native => ∃ a, group = some a ∧ a.Canonical ∧
      (∀ name, name ∈ a.allow ↔ name ∈ named reported true) ∧
      ∀ name, name ∈ a.deny ↔ name = deniedToAll ∨ name ∈ named reported false
  | .forced principals => ∃ a, group = some a ∧ a.Canonical ∧
      (∀ name, name ∈ a.allow ↔ name ∈ principals) ∧ a.deny = [deniedToAll]

theorem eq_ofEntries_iff {a : AccessList} :
    a = AccessList.ofEntries (reported.getD []) ↔ a.Canonical ∧
      (∀ name, name ∈ a.allow ↔ name ∈ named reported true) ∧
      ∀ name, name ∈ a.deny ↔ name = deniedToAll ∨ name ∈ named reported false := by
  have hfields : a = AccessList.ofEntries (reported.getD []) ↔
      a.allow = canonicalPrincipals (AccessList.readers (reported.getD []) true) ∧
        a.deny = canonicalPrincipals
          (AccessList.readers (reported.getD []) false ++ [deniedToAll]) := by
    cases a
    exact AccessList.mk.injEq _ _ _ _ ▸ Iff.rfl
  rw [hfields, eq_canonicalPrincipals_iff, eq_canonicalPrincipals_iff, canonical_iff]
  simp only [AccessList.mem_readers, AccessList.mem_denied, Set.mem_insert_iff]
  constructor
  · rintro ⟨⟨hallow, hallowed⟩, hdeny, hdenied⟩
    exact ⟨⟨hallow, hdeny, (hdenied deniedToAll).mpr (Or.inl rfl)⟩, hallowed, hdenied⟩
  · rintro ⟨⟨hallow, hdeny, _⟩, hallowed, hdenied⟩
    exact ⟨⟨hallow, hallowed⟩, hdeny, hdenied⟩

theorem eq_forced_iff {a : AccessList} {principals : List String} :
    a = ⟨canonicalPrincipals principals, [deniedToAll]⟩ ↔ a.Canonical ∧
      (∀ name, name ∈ a.allow ↔ name ∈ principals) ∧ a.deny = [deniedToAll] := by
  have hfields : a = ⟨canonicalPrincipals principals, [deniedToAll]⟩ ↔
      a.allow = canonicalPrincipals principals ∧ a.deny = [deniedToAll] := by
    cases a
    exact AccessList.mk.injEq _ _ _ _ ▸ Iff.rfl
  rw [hfields, eq_canonicalPrincipals_iff, canonical_iff]
  constructor
  · rintro ⟨⟨hallow, hallowed⟩, hdeny⟩
    rw [hdeny]
    exact ⟨⟨hallow, List.pairwise_singleton _ _, List.mem_singleton.mpr rfl⟩, hallowed, rfl⟩
  · rintro ⟨⟨hallow, _, _⟩, hallowed, hdeny⟩
    exact ⟨⟨hallow, hallowed⟩, hdeny⟩

/-- **A policy demands what it resolves to**, and nothing else will do. -/
theorem demands_iff (p : AccessPolicy) (reported : Option (List AccessEntry))
    (group : Option AccessList) : p.Demands reported group ↔ group = p.resolve reported := by
  have hsome : ∀ {wanted : AccessList}, (∃ a, group = some a ∧ a = wanted) ↔ group = some wanted := by
    intro wanted
    constructor
    · rintro ⟨a, hgroup, rfl⟩
      exact hgroup
    · exact fun hgroup => ⟨wanted, hgroup, rfl⟩
  cases p with
  | disabled => exact Iff.rfl
  | native =>
      unfold AccessPolicy.Demands AccessPolicy.resolve
      dsimp only
      rw [← hsome]
      simp only [eq_ofEntries_iff]
  | forced principals =>
      unfold AccessPolicy.Demands AccessPolicy.resolve
      dsimp only
      rw [← hsome]
      simp only [eq_forced_iff]

/-! ## Lists in tokens -/

theorem length_eraseReps_le : ∀ names : List String, names.eraseReps.length ≤ names.length
  | [] => Nat.le_refl _
  | [_] => Nat.le_refl _
  | a :: b :: rest => by
      have ih := length_eraseReps_le (b :: rest)
      rw [eraseReps_cons_cons]
      split
      · exact Nat.le_succ_of_le ih
      · exact Nat.succ_le_succ ih

theorem length_canonicalPrincipals_le (names : List String) :
    (canonicalPrincipals names).length ≤ names.length := by
  have hlength := length_eraseReps_le (names.mergeSort (fun a b => a ≤ b))
  rwa [List.length_mergeSort] at hlength

theorem AccessList.length_readers_le (entries : List AccessEntry) (allow : Bool) :
    (readers entries allow).length ≤ entries.length := by
  unfold readers
  rw [List.length_map]
  exact List.length_filter_le _ _

/-- The lists that the policy reads are of a length that a word can hold, as lists in memory are; with
the store's list there is room for the principal that is always denied. -/
def AccessPolicy.Holds (p : AccessPolicy) (reported : Option (List AccessEntry)) : Prop :=
  match p with
  | .disabled => True
  | .native => (reported.getD []).length + 1 < UInt64.size
  | .forced principals => principals.length < UInt64.size

theorem AccessPolicy.Holds.fits (h : p.Holds reported) {a : AccessList}
    (ha : p.resolve reported = some a) : a.Fits := by
  cases p with
  | disabled => cases ha
  | native =>
      obtain rfl := Option.some.inj ha
      have hroom : (reported.getD []).length + 1 < UInt64.size := h
      have hreaders := AccessList.length_readers_le (reported.getD [])
      have hallow := length_canonicalPrincipals_le (AccessList.readers (reported.getD []) true)
      have hdeny := length_canonicalPrincipals_le
        (AccessList.readers (reported.getD []) false ++ [deniedToAll])
      rw [List.length_append, List.length_singleton] at hdeny
      exact ⟨Nat.lt_of_le_of_lt (hallow.trans (hreaders true)) (Nat.lt_of_succ_lt hroom),
        Nat.lt_of_le_of_lt (hdeny.trans (Nat.succ_le_succ (hreaders false))) hroom⟩
  | forced principals =>
      obtain rfl := Option.some.inj ha
      have hroom : principals.length < UInt64.size := h
      have hone : [deniedToAll].length < UInt64.size := by decide
      exact ⟨Nat.lt_of_le_of_lt (length_canonicalPrincipals_le principals) hroom, hone⟩

/-- The lists that are read from a token are those that were resolved for it. -/
theorem access_of_token {enc : Encoder} {e : Entry}
    (hcontainer : enc.containerAccess.Holds e.containerAccess)
    (hentry : enc.entryAccess.Holds e.access) (tree : RuleTree) (start : String) :
    (Version.ofToken (enc.token tree start e)).containerAccess =
        enc.containerAccess.resolve e.containerAccess ∧
      (Version.ofToken (enc.token tree start e)).entryAccess =
        enc.entryAccess.resolve e.access := by
  have hfits : (enc.version tree start e).Fits :=
    ⟨fun _ ha => hcontainer.fits ha, fun _ ha => hentry.fits ha⟩
  have hread : Version.ofToken (enc.token tree start e) = enc.version tree start e := by
    rw [Version.ofToken, Encoder.token, Version.toList_token]
    exact List.append_nil (Version.encode _) ▸ Version.decode_encode_append hfits []
  rw [hread]
  exact ⟨rfl, rfl⟩

/-- **Access lists are canonical and let nobody in by mistake.** What a policy demands of an access
list is demanded of one list only, and the policy resolves to it, whatever the store reports; an entry
has a say if its mask has one of the three bits that let read. The same is demanded of the lists that
are read from the token of an entry, and they meet it. -/
theorem resolution_demanded :
    (∀ a : AccessEntry, a.grantsRead = true ↔ ∃ i ∈ [0, 28, 31], a.mask.toNat.testBit i = true) ∧
    (∀ (p : AccessPolicy) (reported : Option (List AccessEntry)) (group : Option AccessList),
      p.Demands reported group ↔ group = p.resolve reported) ∧
    ∀ (enc : Encoder) (tree : RuleTree) (start : String) (e : Entry),
      enc.containerAccess.Holds e.containerAccess → enc.entryAccess.Holds e.access →
        enc.containerAccess.Demands e.containerAccess
            (Version.ofToken (enc.token tree start e)).containerAccess ∧
          enc.entryAccess.Demands e.access
            (Version.ofToken (enc.token tree start e)).entryAccess := by
  refine ⟨AccessEntry.grantsRead_iff, demands_iff, fun enc tree start e hcontainer hentry => ?_⟩
  obtain ⟨hread, hread'⟩ := access_of_token hcontainer hentry tree start
  exact ⟨(demands_iff _ _ _).mpr hread, (demands_iff _ _ _).mpr hread'⟩

/-- One principal is allowed and denied, one is named twice, and one has no right to read. -/
def contestedAccess : List AccessEntry :=
  [⟨"é+", true, 0x80000000⟩, ⟨"S-1", true, 1⟩, ⟨"S-1", false, 0x10000000⟩, ⟨"é+", true, 3⟩,
    ⟨"Z", true, 2⟩]

/-- A share whose list the job sets, twice the same principal in it. -/
def contestedEncoder : Encoder := { Encoder.standard with
  containerAccess := .forced ["b", "a", "b"]
  entryAccess := .native }

theorem resolution_demanded_contested :
    (AccessPolicy.forced ["b", "a", "b"]).Holds none ∧
      AccessPolicy.native.Holds (some contestedAccess) ∧
      ∃ a, (Version.ofToken (contestedEncoder.token .everything ""
          { Entry.leaf "/a" 1 0 with access := some contestedAccess })).entryAccess = some a ∧
        "S-1" ∈ a.allow ∧ "S-1" ∈ a.deny ∧ "DEAD_AUTHORITY" ∈ a.deny ∧ "Z" ∉ a.allow := by
  have hcontainer : (AccessPolicy.forced ["b", "a", "b"]).Holds none := by
    unfold AccessPolicy.Holds
    decide
  have hentry : AccessPolicy.native.Holds (some contestedAccess) := by
    unfold AccessPolicy.Holds
    decide
  obtain ⟨-, a, hread, hcanonical, hallowed, hdenied⟩ := resolution_demanded.2.2 contestedEncoder
    .everything "" { Entry.leaf "/a" 1 0 with access := some contestedAccess } hcontainer hentry
  refine ⟨hcontainer, hentry, a, hread, (hallowed "S-1").mpr ?_, (hdenied "S-1").mpr (Or.inr ?_),
    hcanonical.closed, fun hmem => ?_⟩
  · exact ⟨⟨"S-1", true, 1⟩, by decide, by decide, rfl, rfl⟩
  · exact ⟨⟨"S-1", false, 0x10000000⟩, by decide, by decide, rfl, rfl⟩
  · have hnobody : ¬ ∃ a ∈ (some contestedAccess).getD [],
        a.grantsRead = true ∧ a.allow = true ∧ a.principal = "Z" := by decide
    exact hnobody ((hallowed "Z").mp hmem)

end Harvest
