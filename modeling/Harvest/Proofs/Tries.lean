import Mathlib.Order.Bounds.Basic
import Harvest.Failure.Retrying

/-!
# How often a call is made

A call is played through on a clock. Its tries come to what a script has in store for them, in the
time the script gives them, and the chronicle of the play holds when tries were begun and when there
were pauses. The script is endless: how many tries are made is for the policy to say.

The loop carries two things along, how many tries are left and the streak of the last failure. Both
can be read off the script once it is known how many tries have been made, so what is still to come
depends on the chronicle alone (`onward`). One try leads to one of four things (`onward_cancelled`,
`onward_final`, `onward_interrupted`, `onward_again`), and whatever is to be shown of whole plays is
shown along these.

For a play that nobody cancels that is **the law of the budgets** (`play_budgets`): the tries stop
at the first that leaves nothing to hope for, and the call comes to what that one comes to.
-/

namespace Harvest.Retrying

variable {α : Type}

/-! ## Scripts -/

/-- What is in store for the tries of a call. Tries count from one. -/
structure Script (α : Type) where
  /-- What a try comes to. -/
  result : Nat → Except Failure α
  /-- How many milliseconds a try takes. -/
  duration : Nat → Nat

namespace Script

/-- The key of the failure of a try, if it fails. -/
def key? (s : Script α) (i : Nat) : Option String :=
  match s.result i with
  | .ok _ => none
  | .error f => some (Signature.ofFailure f).key

/-- The keys of the tries up to the `i`th, last first. -/
def keys (s : Script α) : Nat → List (Option String)
  | 0 => []
  | i + 1 => s.key? (i + 1) :: keys s i

/-- How many tries in a row have failed in the same way, up to the `i`th. -/
def streak (s : Script α) (i : Nat) : Nat := ((s.keys i).takeWhile (· == s.key? i)).length

/-- No try follows the `i`th: it succeeds, or fails in a way that another try does not mend, or one
of the budgets is spent. -/
def Final (s : Script α) (p : RetryPolicy) (i : Nat) : Prop :=
  (∃ a, s.result i = .ok a) ∨
    (∃ f, s.result i = .error f ∧ (Signature.ofFailure f).faultClass ≠ .retryable) ∨
    p.maxAttempts.toNat ≤ i ∨ p.maxConsecutive.toNat ≤ s.streak i

/-- The streak that the `i`th try ends, if it fails. -/
def streak? (s : Script α) : Nat → Option Streak
  | 0 => none
  | i + 1 => (s.key? (i + 1)).map (fun k => ⟨k, s.streak (i + 1)⟩)

variable {s : Script α} {p : RetryPolicy} {i : Nat} {f : Failure} {k : String}

theorem key?_of_error (h : s.result i = .error f) :
    s.key? i = some (Signature.ofFailure f).key := by
  rw [key?, h]

theorem streak_le (s : Script α) (i : Nat) : s.streak i ≤ i := by
  have hlength : ∀ i, (s.keys i).length = i := fun i => by
    induction i with
    | zero => rfl
    | succ i ih => rw [keys, List.length_cons, ih]
  exact (List.takeWhile_prefix _).length_le.trans (hlength i).le

/-- **A streak goes on if the key is the same**, and starts anew otherwise. -/
theorem streak_succ (s : Script α) (i : Nat) :
    s.streak (i + 1) = if s.key? i = s.key? (i + 1) then s.streak i + 1 else 1 := by
  have hcons : s.streak (i + 1) = ((s.keys i).takeWhile (· == s.key? (i + 1))).length + 1 := by
    unfold streak
    rw [keys, List.takeWhile_cons, if_pos (beq_self_eq_true _), List.length_cons]
  rw [hcons]
  cases i with
  | zero => exact (ite_self _).symm
  | succ i =>
      split
      · rename_i hkey
        rw [← hkey]
        rfl
      · rename_i hkey
        rw [keys, List.takeWhile_cons, if_neg (fun h => hkey (beq_iff_eq.mp h)), List.length_nil]

/-- The streak that the loop carries along is that of the script. -/
theorem extend_streak? (h : s.key? (i + 1) = some k) :
    Streak.extend (s.streak? i) k = ⟨k, s.streak (i + 1)⟩ := by
  rw [streak_succ, h]
  cases i with
  | zero => exact congrArg (Streak.mk k) (ite_self _).symm
  | succ i =>
      rw [streak?]
      cases hkey : s.key? (i + 1) with
      | none => rfl
      | some k' =>
          simp only [Option.map_some, Streak.extend, Option.some.injEq]
          split <;> rfl

/-- A try that is followed by another has failed, and the budgets allow for the other. -/
theorem error_of_not_final (h : ¬s.Final p i) :
    ∃ f, s.result i = .error f ∧ (Signature.ofFailure f).faultClass = .retryable ∧
      i < p.maxAttempts.toNat ∧ s.streak i < p.maxConsecutive.toNat := by
  unfold Final at h
  push Not at h
  obtain ⟨hok, hclass, hattempts, hconsecutive⟩ := h
  cases hr : s.result i with
  | ok a => exact absurd hr (hok a)
  | error f => exact ⟨f, rfl, hclass f hr, hattempts, hconsecutive⟩

end Script

/-! ## Plays -/

/-- What has become of a call so far; the lists hold what came last first. -/
structure Chronicle where
  now : Moment
  /-- When tries were begun. -/
  begun : List Moment
  /-- From when until when there were pauses. -/
  pauses : List (Moment × Moment)
  warnings : List Warning

namespace Chronicle

/-- Nothing has been tried. -/
def start (now : Moment) : Chronicle := ⟨now, [], [], []⟩

/-- The next try, which takes so many milliseconds. -/
def tried (c : Chronicle) (duration : Nat) : Chronicle :=
  { c with now := c.now + duration, begun := c.now :: c.begun }

def warned (c : Chronicle) (w : Warning) : Chronicle := { c with warnings := w :: c.warnings }

/-- A pause until some moment. -/
def paused (c : Chronicle) (ending : Moment) : Chronicle :=
  { c with now := ending, pauses := (c.now, ending) :: c.pauses }

/-- Whether the call is cancelled by now. -/
def Cancelled (cancelAt : Option Moment) (c : Chronicle) : Prop := ∃ t ∈ cancelAt, t ≤ c.now

instance (cancelAt : Option Moment) (c : Chronicle) : Decidable (c.Cancelled cancelAt) :=
  inferInstanceAs (Decidable (∃ t ∈ cancelAt, t ≤ c.now))

/-- The process around a call that is cancelled at some moment, if at all. A cancellation that falls
into a pause ends it. -/
def monitor (cancelAt : Option Moment) : Monitor (StateM Chronicle) where
  now := return (← get).now
  isCancelled := return decide ((← get).Cancelled cancelAt)
  pause := fun delay => do
    let c ← get
    match cancelAt.filter (· ≤ c.now + delay) with
    | some t =>
      set (c.paused (max c.now t))
      return true
    | none =>
      set (c.paused (c.now + delay))
      return false
  warn := fun w => modify (·.warned w)

/-- What is left after a pause that nothing interrupts. No time at all is no pause. -/
def waited (c : Chronicle) (delay : Nat) : Chronicle :=
  if delay = 0 then c else c.paused (c.now + delay)

variable {cancelAt : Option Moment} {p : RetryPolicy} {c : Chronicle} {delay : Nat} {t : Moment}

theorem not_cancelled_none (c : Chronicle) : ¬c.Cancelled none := fun ⟨_, ht, _⟩ => by cases ht

theorem begun_waited (c : Chronicle) (delay : Nat) : (c.waited delay).begun = c.begun := by
  unfold waited
  split <;> rfl

theorem warnings_waited (c : Chronicle) (delay : Nat) : (c.waited delay).warnings = c.warnings := by
  unfold waited
  split <;> rfl

theorem run_isCancelled (cancelAt : Option Moment) (c : Chronicle) :
    (monitor cancelAt).isCancelled.run c = pure (decide (c.Cancelled cancelAt), c) := rfl

theorem run_wait_interrupted (ht : t ∈ cancelAt) (hdelay : delay ≠ 0) (hreach : t ≤ c.now + delay) :
    ((Retrying.mk p (monitor cancelAt)).wait delay).run c =
      pure (true, c.paused (max c.now t)) := by
  obtain rfl := Option.mem_def.mp ht
  have hfilter : (some t).filter (· ≤ c.now + delay) = some t :=
    Option.filter_eq_some_iff.mpr ⟨rfl, decide_eq_true hreach⟩
  rw [wait, if_neg hdelay]
  simp only [monitor, StateT.run_bind, StateT.run_get, pure_bind, hfilter]
  rfl

theorem run_wait (h : delay = 0 ∨ ∀ t ∈ cancelAt, c.now + delay < t) :
    ((Retrying.mk p (monitor cancelAt)).wait delay).run c = pure (false, c.waited delay) := by
  unfold wait waited
  split
  · rfl
  · rename_i hdelay
    have hfilter : cancelAt.filter (· ≤ c.now + delay) = none := by
      refine Option.filter_eq_none_iff.mpr (fun t ht hle => ?_)
      exact absurd (of_decide_eq_true hle) (not_le.mpr (h.resolve_left hdelay t ht))
    simp only [monitor, StateT.run_bind, StateT.run_get, pure_bind, hfilter]
    rfl

end Chronicle

namespace Script

/-- The call that does what the script says. -/
def call (s : Script α) : Action (StateM Chronicle) α := ExceptT.mk do
  let c ← get
  set (c.tried (s.duration (c.begun.length + 1)))
  return s.result (c.begun.length + 1)

/-- The call under a policy, from some moment on. -/
def play (s : Script α) (p : RetryPolicy) (operation : String) (cancelAt : Option Moment)
    (start : Moment) : Except Failure α × Chronicle :=
  ((Retrying.mk p (Chronicle.monitor cancelAt)).run operation s.call).run.run (.start start)

/-- What is still to come of a call, given what has become of it so far. -/
def onward (s : Script α) (p : RetryPolicy) (operation : String) (cancelAt : Option Moment)
    (c : Chronicle) : Except Failure α × Chronicle :=
  ((Retrying.mk p (Chronicle.monitor cancelAt)).tryFrom operation s.call
    (p.extraTries - c.begun.length) (c.begun.length + 1) (s.streak? c.begun.length)).run.run c

/-- What is said of a try that failed and is followed by another. -/
def warning (s : Script α) (p : RetryPolicy) (operation : String) (f : Failure) (i : Nat) :
    Warning :=
  .retrying (.new operation (.ofFailure f) i) (s.streak i) (p.backoff i)

variable {s : Script α} {p : RetryPolicy} {operation : String} {cancelAt : Option Moment}
  {c : Chronicle} {f : Failure}

theorem play_eq_onward (start : Moment) :
    s.play p operation cancelAt start = s.onward p operation cancelAt (.start start) := rfl

theorem run_call : s.call.run.run c =
    pure (s.result (c.begun.length + 1), c.tried (s.duration (c.begun.length + 1))) := rfl

theorem onward_cancelled (h : c.Cancelled cancelAt) :
    s.onward p operation cancelAt c = (.error .cancelled, c) := by
  rw [onward, tryFrom, ExceptT.run_mk, StateT.run_bind, Chronicle.run_isCancelled, decide_eq_true h]
  rfl

theorem onward_final (hgoes : ¬c.Cancelled cancelAt) (hfinal : s.Final p (c.begun.length + 1)) :
    s.onward p operation cancelAt c =
      (s.result (c.begun.length + 1), c.tried (s.duration (c.begun.length + 1))) := by
  rw [onward, tryFrom, ExceptT.run_mk, StateT.run_bind, Chronicle.run_isCancelled,
    decide_eq_false hgoes, pure_bind, if_neg Bool.false_ne_true, StateT.run_bind, run_call,
    pure_bind]
  cases hr : s.result (c.begun.length + 1) with
  | ok a => rfl
  | error f =>
      dsimp only [FailedTry.new]
      by_cases hclass : (Signature.ofFailure f).faultClass = .retryable
      · rw [if_neg (not_not.mpr hclass), extend_streak? (key?_of_error hr)]
        have hspent : p.maxAttempts.toNat ≤ c.begun.length + 1 ∨
            p.maxConsecutive.toNat ≤ s.streak (c.begun.length + 1) := by
          obtain ⟨a, ha⟩ | ⟨f', hf', hclass'⟩ | hspent := hfinal
          · cases hr.symm.trans ha
          · cases hr.symm.trans hf'
            exact absurd hclass hclass'
          · exact hspent
        cases hleft : p.extraTries - c.begun.length with
        | zero => rfl
        | succ left =>
            unfold RetryPolicy.extraTries at hleft
            exact congrArg (StateT.run · _) (if_pos (hspent.resolve_left (by omega)))
      · rw [if_pos hclass]
        rfl

/-- The chronicle after a failed try that is followed by another, but for the pause between them. -/
def afterTry (s : Script α) (p : RetryPolicy) (operation : String) (f : Failure) (c : Chronicle) :
    Chronicle :=
  (c.tried (s.duration (c.begun.length + 1))).warned
    (s.warning p operation f (c.begun.length + 1))

/-- A try that is not final is followed by a pause, and the pause by what is still to come. -/
theorem onward_of_not_final (hgoes : ¬c.Cancelled cancelAt)
    (hmore : ¬s.Final p (c.begun.length + 1)) (hr : s.result (c.begun.length + 1) = .error f) :
    s.onward p operation cancelAt c =
      StateT.run (do
        if ← (Retrying.mk p (Chronicle.monitor cancelAt)).wait (p.backoff (c.begun.length + 1)) then
          return .error .cancelled
        ((Retrying.mk p (Chronicle.monitor cancelAt)).tryFrom operation s.call
          (p.extraTries - (c.begun.length + 1)) (c.begun.length + 2)
          (s.streak? (c.begun.length + 1))).run)
        (s.afterTry p operation f c) := by
  obtain ⟨f', hf', hclass, hattempts, hconsecutive⟩ := error_of_not_final hmore
  cases hr.symm.trans hf'
  have hleft : p.extraTries - c.begun.length = p.extraTries - (c.begun.length + 1) + 1 := by
    unfold RetryPolicy.extraTries
    omega
  rw [onward, tryFrom, ExceptT.run_mk, StateT.run_bind, Chronicle.run_isCancelled,
    decide_eq_false hgoes, pure_bind, if_neg Bool.false_ne_true, StateT.run_bind, run_call,
    pure_bind, hr]
  dsimp only [FailedTry.new]
  rw [if_neg (not_not.mpr hclass), extend_streak? (key?_of_error hr), hleft]
  dsimp only
  rw [if_neg (not_le.mpr hconsecutive), streak?, key?_of_error hr]
  rfl

theorem onward_interrupted {t : Moment} (hgoes : ¬c.Cancelled cancelAt)
    (hmore : ¬s.Final p (c.begun.length + 1)) (hr : s.result (c.begun.length + 1) = .error f)
    (ht : t ∈ cancelAt) (hdelay : p.backoff (c.begun.length + 1) ≠ 0)
    (hreach : t ≤ (s.afterTry p operation f c).now + p.backoff (c.begun.length + 1)) :
    s.onward p operation cancelAt c = (.error .cancelled,
      (s.afterTry p operation f c).paused (max (s.afterTry p operation f c).now t)) := by
  rw [onward_of_not_final hgoes hmore hr, StateT.run_bind,
    Chronicle.run_wait_interrupted ht hdelay hreach]
  rfl

theorem onward_again (hgoes : ¬c.Cancelled cancelAt) (hmore : ¬s.Final p (c.begun.length + 1))
    (hr : s.result (c.begun.length + 1) = .error f)
    (hreach : p.backoff (c.begun.length + 1) = 0 ∨ ∀ t ∈ cancelAt,
      (s.afterTry p operation f c).now + p.backoff (c.begun.length + 1) < t) :
    s.onward p operation cancelAt c = s.onward p operation cancelAt
      ((s.afterTry p operation f c).waited (p.backoff (c.begun.length + 1))) := by
  rw [onward_of_not_final hgoes hmore hr, StateT.run_bind, Chronicle.run_wait hreach, onward,
    Chronicle.begun_waited]
  rfl

theorem begun_again (delay : Nat) :
    ((s.afterTry p operation f c).waited delay).begun = c.now :: c.begun :=
  Chronicle.begun_waited _ delay

/-- Where nobody cancels the call, a try that is not final is followed by another after a pause. -/
theorem onward_uncancelled (hmore : ¬s.Final p (c.begun.length + 1))
    (hr : s.result (c.begun.length + 1) = .error f) :
    s.onward p operation none c = s.onward p operation none
      ((s.afterTry p operation f c).waited (p.backoff (c.begun.length + 1))) :=
  onward_again (Chronicle.not_cancelled_none c) hmore hr (Or.inr nofun)

/-- **Plays come to an end**: tries that are not final use up the budget. What holds of a chronicle
if it holds of those with one more try, holds of every chronicle. -/
theorem chronicle_induction (s : Script α) (p : RetryPolicy) {motive : Chronicle → Prop}
    (h : ∀ c, (¬s.Final p (c.begun.length + 1) →
      ∀ d : Chronicle, d.begun.length = c.begun.length + 1 → motive d) → motive c) :
    ∀ c, motive c := by
  intro c
  induction hk : p.extraTries - c.begun.length using Nat.strongRecOn generalizing c with
  | ind k ih =>
    refine h c (fun hmore d hd => ih _ ?_ d rfl)
    obtain ⟨_, _, _, hattempts, _⟩ := error_of_not_final hmore
    unfold RetryPolicy.extraTries at hk ⊢
    omega

/-! ## Plays that nobody cancels -/

/-- The tries that a warning counts are among the first `n`. -/
def Counts (n : Nat) (w : Warning) : Prop :=
  ∀ record consecutive delay, w = .retrying record consecutive delay →
    record.attempt ≤ n ∧ consecutive ≤ record.attempt

/-- The tries made so far were not final. -/
structure Underway (s : Script α) (p : RetryPolicy) (c : Chronicle) : Prop where
  earlier : ∀ i, 1 ≤ i → i ≤ c.begun.length → ¬s.Final p i
  counted : ∀ w ∈ c.warnings, Counts c.begun.length w

/-- The last try made is the first final one, and the call comes to what it comes to. -/
structure Settled (s : Script α) (p : RetryPolicy) (out : Except Failure α × Chronicle) : Prop where
  least : IsLeast {i | 1 ≤ i ∧ s.Final p i} out.2.begun.length
  result : out.1 = s.result out.2.begun.length
  counted : ∀ w ∈ out.2.warnings, Counts (out.2.begun.length - 1) w

theorem underway_start (now : Moment) : s.Underway p (.start now) where
  earlier := fun _ hi hle => absurd hi (not_le.mpr (Nat.lt_succ_of_le hle))
  counted := fun _ hw => absurd hw List.not_mem_nil

theorem Underway.again (h : s.Underway p c) (hmore : ¬s.Final p (c.begun.length + 1))
    (delay : Nat) : s.Underway p ((s.afterTry p operation f c).waited delay) where
  earlier := by
    intro i hi hle
    rw [begun_again, List.length_cons] at hle
    obtain hlt | rfl := Nat.lt_or_eq_of_le hle
    · exact h.earlier i hi (Nat.le_of_lt_succ hlt)
    · exact hmore
  counted := by
    intro w hw
    rw [begun_again, List.length_cons]
    rw [Chronicle.warnings_waited] at hw
    rcases List.mem_cons.mp hw with rfl | hw
    · rintro record consecutive delay ⟨⟩
      exact ⟨le_rfl, s.streak_le _⟩
    · intro record consecutive delay heq
      obtain ⟨hattempt, hconsecutive⟩ := h.counted w hw record consecutive delay heq
      exact ⟨Nat.le_succ_of_le hattempt, hconsecutive⟩

theorem Underway.settled (h : s.Underway p c) (hfinal : s.Final p (c.begun.length + 1)) :
    s.Settled p (s.result (c.begun.length + 1), c.tried (s.duration (c.begun.length + 1))) where
  least := by
    refine ⟨⟨Nat.le_add_left 1 _, hfinal⟩, ?_⟩
    rintro i ⟨hi, hfinal'⟩
    exact not_lt.mp (fun hlt => h.earlier i hi (Nat.le_of_lt_succ hlt) hfinal')
  result := rfl
  counted := h.counted

theorem onward_settled (s : Script α) (p : RetryPolicy) (operation : String) :
    ∀ c, s.Underway p c → s.Settled p (s.onward p operation none c) := by
  refine chronicle_induction s p (fun c ih hc => ?_)
  by_cases hfinal : s.Final p (c.begun.length + 1)
  · rw [onward_final (Chronicle.not_cancelled_none c) hfinal]
    exact hc.settled hfinal
  · obtain ⟨f, hr, _⟩ := error_of_not_final hfinal
    rw [onward_uncancelled hfinal hr]
    exact ih hfinal _ (congrArg List.length (begun_again _)) (hc.again hfinal _)

end Script

/-- **The law of the budgets.** However the tries of a call turn out, there is a first one that
succeeds, or fails for good, or spends one of the budgets. The call is made up to that one, and
comes to what that one comes to. Its number and the numbers in all warnings before it are numbers of
32 bits. -/
theorem play_budgets (p : RetryPolicy) (operation : String) (s : Script α) (start : Moment) :
    ∃ n, IsLeast {i | 1 ≤ i ∧ s.Final p i} n ∧
      (s.play p operation none start).2.begun.length = n ∧
      (s.play p operation none start).1 = s.result n ∧
      n < UInt32.size ∧
      ∀ record consecutive delay,
        .retrying record consecutive delay ∈ (s.play p operation none start).2.warnings →
          record.attempt < n ∧ consecutive ≤ record.attempt := by
  have hsettled := s.onward_settled p operation _ (Script.underway_start start)
  rw [← Script.play_eq_onward] at hsettled
  refine ⟨_, hsettled.least, rfl, hsettled.result, ?_, ?_⟩
  · -- at the latest the try that uses up the first budget is final
    have hspent : s.Final p (max 1 p.maxAttempts.toNat) :=
      Or.inr (Or.inr (Or.inl (le_max_right _ _)))
    have hle := hsettled.least.2 ⟨le_max_left _ _, hspent⟩
    have hword := p.maxAttempts.toNat_lt_size
    have hsize : 1 < UInt32.size := by decide
    exact lt_of_le_of_lt hle (max_lt hsize hword)
  · intro record consecutive delay hw
    obtain ⟨hattempt, hconsecutive⟩ := hsettled.counted _ hw record consecutive delay rfl
    have hone := hsettled.least.1.1
    exact ⟨by omega, hconsecutive⟩

end Harvest.Retrying
