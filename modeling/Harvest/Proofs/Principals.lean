import Mathlib.Data.List.Sort
import Mathlib.Data.String.Basic
import Harvest.Access

/-!
# Access lists in canonical form

A list of principals is sorted, and then every principal is kept once. So the canonical form is
strictly increasing (`canonicalPrincipals_pairwise`) and names the principals of the list
(`mem_canonicalPrincipals`), and these two facts settle it: lists have the same canonical form
exactly if they name the same principals (`canonicalPrincipals_eq_iff`).

An access list that a job derives from what the store reports is therefore a matter of who is named,
and neither of the order nor of the number of the reported entries (`resolve_eq_iff`).
-/

namespace Harvest

variable {name : String} {names names' : List String}

/-! ## Repetitions -/

theorem eraseReps_loop (a : String) (rest acc : List String) :
    List.eraseRepsBy.loop (· == ·) a rest acc = acc.reverse ++ (a :: rest).eraseReps := by
  have hloop : ∀ (rest : List String) (a : String) (acc : List String),
      List.eraseRepsBy.loop (· == ·) a rest acc =
        acc.reverse ++ List.eraseRepsBy.loop (· == ·) a rest [] := by
    intro rest
    induction rest with
    | nil => intro a acc; simp [List.eraseRepsBy.loop]
    | cons b rest ih =>
        intro a acc
        rw [List.eraseRepsBy.loop, List.eraseRepsBy.loop]
        split
        · exact ih a acc
        · rw [ih b (a :: acc), ih b [a], List.reverse_cons, List.append_assoc,
            List.reverse_singleton]
  exact hloop rest a acc

theorem eraseReps_cons_cons (a b : String) (rest : List String) :
    (a :: b :: rest).eraseReps =
      if a = b then (b :: rest).eraseReps else a :: (b :: rest).eraseReps := by
  rw [List.eraseReps, List.eraseRepsBy, List.eraseRepsBy.loop]
  split
  · rename_i h
    obtain rfl := beq_iff_eq.mp h
    rw [if_pos rfl]
    rfl
  · rename_i h
    rw [if_neg (fun heq => by rw [heq, beq_self_eq_true] at h; cases h), eraseReps_loop]
    rfl

theorem mem_eraseReps : ∀ {names : List String}, name ∈ names.eraseReps ↔ name ∈ names
  | [] => Iff.rfl
  | [_] => Iff.rfl
  | a :: b :: rest => by
      rw [eraseReps_cons_cons]
      split
      · rename_i h
        rw [mem_eraseReps, h]
        simp only [List.mem_cons, or_self_left]
      · rw [List.mem_cons, mem_eraseReps, ← List.mem_cons]

/-- Once its repetitions are gone, a sorted list is strictly increasing. -/
theorem eraseReps_pairwise : ∀ {names : List String}, names.Pairwise (· ≤ ·) →
    names.eraseReps.Pairwise (· < ·)
  | [], _ => List.Pairwise.nil
  | [a], _ => List.pairwise_singleton _ a
  | a :: b :: rest, h => by
      obtain ⟨hfirst, hothers⟩ := List.pairwise_cons.mp h
      rw [eraseReps_cons_cons]
      split
      · exact eraseReps_pairwise hothers
      · rename_i hne
        refine List.pairwise_cons.mpr ⟨fun n hn => ?_, eraseReps_pairwise hothers⟩
        have hlt : a < b := lt_of_le_of_ne (hfirst b List.mem_cons_self) hne
        rcases List.mem_cons.mp (mem_eraseReps.mp hn) with rfl | hn
        · exact hlt
        · exact hlt.trans_le ((List.pairwise_cons.mp hothers).1 n hn)

/-! ## Canonical form -/

theorem mem_canonicalPrincipals : name ∈ canonicalPrincipals names ↔ name ∈ names := by
  rw [canonicalPrincipals, mem_eraseReps, List.mem_mergeSort]

theorem canonicalPrincipals_pairwise (names : List String) :
    (canonicalPrincipals names).Pairwise (· < ·) := by
  refine eraseReps_pairwise ?_
  have htrans : ∀ a b c : String, decide (a ≤ b) = true → decide (b ≤ c) = true →
      decide (a ≤ c) = true :=
    fun _ _ _ hab hbc => decide_eq_true ((of_decide_eq_true hab).trans (of_decide_eq_true hbc))
  have htotal : ∀ a b : String, (decide (a ≤ b) || decide (b ≤ a)) = true := by
    intro a b
    rw [Bool.or_eq_true, decide_eq_true_iff, decide_eq_true_iff]
    exact le_total a b
  exact (List.pairwise_mergeSort htrans htotal names).imp of_decide_eq_true

/-- **The canonical form of a list is a matter of the principals it names.** -/
theorem canonicalPrincipals_eq_iff :
    canonicalPrincipals names = canonicalPrincipals names' ↔
      ∀ name, name ∈ names ↔ name ∈ names' := by
  constructor
  · intro h name
    rw [← mem_canonicalPrincipals, h, mem_canonicalPrincipals]
  · intro h
    refine (canonicalPrincipals_pairwise names).eq_of_mem_iff
      (canonicalPrincipals_pairwise names') (fun name => ?_)
    rw [mem_canonicalPrincipals, mem_canonicalPrincipals]
    exact h name

/-! ## Access lists -/

/-- The principals that reported entries with a read right allow, or deny; nothing reported names
nobody. -/
def named (reported : Option (List AccessEntry)) (allow : Bool) : Set String :=
  {name | ∃ a ∈ reported.getD [], a.grantsRead = true ∧ a.allow = allow ∧ a.principal = name}

/-- Two reports allow the same principals, and deny the same, counting the one that is always
denied. -/
structure SameReaders (reported reported' : Option (List AccessEntry)) : Prop where
  allowed : named reported true = named reported' true
  denied : insert deniedToAll (named reported false) = insert deniedToAll (named reported' false)

variable {reported reported' : Option (List AccessEntry)}

theorem AccessList.mem_readers {allow : Bool} :
    name ∈ readers (reported.getD []) allow ↔ name ∈ named reported allow := by
  unfold readers named
  rw [List.mem_map]
  constructor
  · rintro ⟨a, ha, rfl⟩
    obtain ⟨hmem, hkeep⟩ := List.mem_filter.mp ha
    obtain ⟨hreads, hallow⟩ := Bool.and_eq_true_iff.mp hkeep
    exact ⟨a, hmem, hreads, beq_iff_eq.mp hallow, rfl⟩
  · rintro ⟨a, hmem, hreads, hallow, rfl⟩
    have hkeep : (a.grantsRead && a.allow == allow) = true :=
      Bool.and_eq_true_iff.mpr ⟨hreads, beq_iff_eq.mpr hallow⟩
    exact ⟨a, List.mem_filter.mpr ⟨hmem, hkeep⟩, rfl⟩

theorem AccessList.mem_denied :
    name ∈ readers (reported.getD []) false ++ [deniedToAll] ↔
      name ∈ insert deniedToAll (named reported false) := by
  rw [List.mem_append, mem_readers, List.mem_singleton, Set.mem_insert_iff, or_comm]

/-- **Reports lead to the same access list exactly if they name the same principals.** -/
theorem AccessList.ofEntries_eq_iff :
    ofEntries (reported.getD []) = ofEntries (reported'.getD []) ↔
      SameReaders reported reported' := by
  unfold ofEntries
  rw [AccessList.mk.injEq, canonicalPrincipals_eq_iff, canonicalPrincipals_eq_iff]
  simp only [mem_readers, mem_denied]
  rw [← Set.ext_iff, ← Set.ext_iff]
  exact ⟨fun h => ⟨h.1, h.2⟩, fun h => ⟨h.allowed, h.denied⟩⟩

/-- What is reported has a say under the store's own policy only. -/
theorem AccessPolicy.resolve_eq_iff (p : AccessPolicy) :
    p.resolve reported = p.resolve reported' ↔ (p = .native → SameReaders reported reported') := by
  cases p with
  | disabled => exact iff_of_true rfl nofun
  | forced tokens => exact iff_of_true rfl nofun
  | native =>
      rw [forall_prop_of_true rfl, ← AccessList.ofEntries_eq_iff]
      exact Option.some_inj

end Harvest
