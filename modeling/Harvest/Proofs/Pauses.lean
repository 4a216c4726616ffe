import Mathlib.Algebra.Group.Nat.Defs
import Mathlib.Algebra.Ring.Int.Defs
import Harvest.Proofs.Tries

/-!
# Pauses between tries

The first pause of a call is doubled from try to try, sixteen times at most, and cut down to a
limit. All of it is done in words, and still nothing is lost: the factor fits into its word because
the doublings are few, and a product that does not fit is past any limit a word can hold
(`toNat_backoffWord`).

The doublings come to an end of their own, though, not only where the limit is met. A policy that
starts low enough under a high enough limit is left below it, and with patience enough the pause can
be seen to stand still (`pauses_stop_doubling`). Everywhere else pauses go on doubling up to the
limit (`doubled_min_eq_iff`).

That these are the pauses that calls make is read off the clock (`play_pauses`): a try is begun as
soon as the pause after the one before it is over, and all pauses together are no longer than so
many times the limit as there are tries to follow the first.
-/

namespace Harvest

/-! ## Pauses in numbers and in words -/

namespace RetryPolicy

/-- The first pause, doubled so many times and cut down to the limit. -/
def doubled (p : RetryPolicy) (times : Nat) : Nat :=
  min (p.backoffMs.toNat * 2 ^ times) p.maxBackoffMs.toNat

/-- How often the pause after a try is doubled, in a word. -/
def doublings (attempt : UInt32) : UInt32 := min (if attempt = 0 then 0 else attempt - 1) 16

/-- The factor that makes up for the doublings, in a word. -/
def factor (attempt : UInt32) : UInt64 := 1 <<< (doublings attempt).toUInt64

/-- The product of two words, or the greatest word if the product is none. -/
def cappedMul (a b : UInt64) : UInt64 :=
  if a.toNat * b.toNat < UInt64.size then a * b else UInt64.ofNat (UInt64.size - 1)

/-- The pause after a try, in a word. -/
def backoffWord (p : RetryPolicy) (attempt : UInt32) : UInt64 :=
  min (cappedMul p.backoffMs (factor attempt)) p.maxBackoffMs

variable {p : RetryPolicy} {i j m n : Nat}

theorem backoff_eq (p : RetryPolicy) (i : Nat) :
    p.backoff i = p.doubled (min (i - 1) maxDoublings) := by
  rw [backoff, doubled, Nat.shiftLeft_eq]

theorem doubled_le (p : RetryPolicy) (n : Nat) : p.doubled n ≤ p.maxBackoffMs.toNat :=
  Nat.min_le_right _ _

theorem backoff_le (p : RetryPolicy) (i : Nat) : p.backoff i ≤ p.maxBackoffMs.toNat := by
  rw [backoff_eq]
  exact p.doubled_le _

theorem doubled_mono (p : RetryPolicy) (h : m ≤ n) : p.doubled m ≤ p.doubled n := by
  have hpow : 2 ^ m ≤ 2 ^ n := Nat.pow_le_pow_right (by omega) h
  have hmul := Nat.mul_le_mul_left p.backoffMs.toNat hpow
  unfold doubled
  omega

/-- **Fewer doublings make no difference** exactly if none are left out, or if there is nothing to
double or the limit is met without them. -/
theorem doubled_min_eq_iff (p : RetryPolicy) (n m : Nat) :
    p.doubled (min n m) = p.doubled n ↔
      n ≤ m ∨ p.backoffMs = 0 ∨ p.maxBackoffMs.toNat ≤ p.backoffMs.toNat * 2 ^ m := by
  rcases Nat.lt_or_ge m n with hlt | hle
  · have hpow : 2 ^ m < 2 ^ n := Nat.pow_lt_pow_right (by omega) hlt
    have hle := Nat.mul_le_mul_left p.backoffMs.toNat hpow.le
    have hzero : (0 : UInt64).toNat = 0 := rfl
    rw [Nat.min_eq_right hlt.le, or_iff_right (not_le.mpr hlt), ← UInt64.toNat_inj, hzero]
    unfold doubled
    constructor
    · intro heq
      by_cases hfirst : p.backoffMs.toNat = 0
      · exact Or.inl hfirst
      · have hmore := Nat.mul_lt_mul_of_pos_left hpow (Nat.pos_of_ne_zero hfirst)
        omega
    · rintro (hfirst | hmet)
      · rw [hfirst, Nat.zero_mul, Nat.zero_mul]
      · omega
  · rw [Nat.min_eq_left hle]
    exact iff_of_true rfl (Or.inl hle)

theorem toNat_doublings (i : UInt32) : (doublings i).toNat = min (i.toNat - 1) maxDoublings := by
  have hlimit : (16 : UInt32).toNat = maxDoublings := rfl
  rw [doublings, UInt32.toNat_min, hlimit]
  split
  · rename_i hnone
    rw [hnone]
    rfl
  · rename_i hsome
    have hone : (1 : UInt32) ≤ i := by
      have hpos := Nat.pos_of_ne_zero (fun h => hsome (UInt32.toNat_inj.mp h))
      exact UInt32.le_iff_toNat_le.mpr hpos
    rw [UInt32.toNat_sub_of_le i 1 hone]
    rfl

/-- **The shift keeps its only bit.** -/
theorem toNat_factor (i : UInt32) : (factor i).toNat = 2 ^ min (i.toNat - 1) maxDoublings := by
  have hfew : min (i.toNat - 1) maxDoublings ≤ 16 := Nat.min_le_right _ _
  have hshift : min (i.toNat - 1) maxDoublings % 64 = min (i.toNat - 1) maxDoublings :=
    Nat.mod_eq_of_lt (by omega)
  have hfits : 2 ^ min (i.toNat - 1) maxDoublings < 2 ^ 64 :=
    Nat.pow_lt_pow_right (by omega) (by omega)
  rw [factor, UInt64.toNat_shiftLeft, UInt32.toNat_toUInt64, toNat_doublings, hshift,
    UInt64.toNat_one, Nat.one_shiftLeft, Nat.mod_eq_of_lt hfits]

/-- What is cut down to a word may be cut down to the greatest word before. -/
theorem min_toNat_cappedMul (a b limit : UInt64) :
    min (cappedMul a b).toNat limit.toNat = min (a.toNat * b.toNat) limit.toNat := by
  have hlimit : limit.toNat < UInt64.size := limit.toNat_lt_size
  unfold cappedMul
  split
  · rename_i hfits
    rw [UInt64.toNat_mul, Nat.mod_eq_of_lt hfits]
  · have hgreatest : (UInt64.ofNat (UInt64.size - 1)).toNat = UInt64.size - 1 := rfl
    rw [hgreatest]
    omega

/-- **The pause in words is the pause.** -/
theorem toNat_backoffWord (p : RetryPolicy) (i : UInt32) :
    (p.backoffWord i).toNat = p.doubled (min (i.toNat - 1) maxDoublings) := by
  rw [backoffWord, UInt64.toNat_min, min_toNat_cappedMul, toNat_factor, doubled]

end RetryPolicy

namespace Retrying

variable {α : Type} {s : Script α} {p : RetryPolicy} {operation : String}
  {cancelAt : Option Moment} {c : Chronicle} {begun : List Moment} {b b' : Moment} {i : Nat}

/-! ## The clock of a play -/

/-- When a try was begun. -/
def Chronicle.begunAt? (c : Chronicle) (i : Nat) : Option Moment := c.begun.reverse[i - 1]?

/-- How long there were pauses, all together. -/
def Chronicle.idle (c : Chronicle) : Int := (c.pauses.map (fun w => w.2 - w.1)).sum

theorem Chronicle.idle_paused (c : Chronicle) (ending : Moment) :
    (c.paused ending).idle = (ending - c.now) + c.idle := by
  rw [idle, paused, List.map_cons, List.sum_cons]
  rfl

theorem Chronicle.idle_paused_le {ending : Moment} {delay : Nat} (h : ending ≤ c.now + delay) :
    (c.paused ending).idle ≤ delay + c.idle := by
  rw [idle_paused]
  exact Int.add_le_add_right (Int.sub_left_le_of_le_add h) _

theorem Chronicle.idle_waited (c : Chronicle) (delay : Nat) :
    (c.waited delay).idle = delay + c.idle := by
  unfold waited
  split
  · rename_i hdelay
    rw [hdelay]
    exact (Int.zero_add _).symm
  · rw [idle_paused]
    omega

theorem Chronicle.now_waited (c : Chronicle) (delay : Nat) :
    (c.waited delay).now = c.now + delay := by
  unfold waited
  split
  · rename_i hdelay
    rw [hdelay]
    exact (Int.add_zero _).symm
  · rfl

/-- With these tries begun, the last one first, the next one is due at this moment. -/
def Script.Due (s : Script α) (p : RetryPolicy) (begun : List Moment) (due : Moment) : Prop :=
  ∀ b ∈ begun.head?, due = b + s.duration begun.length + p.backoff begun.length

/-- Each of these tries, the last one first, was begun when it was due. -/
def Script.Timely (s : Script α) (p : RetryPolicy) : List Moment → Prop
  | [] => True
  | b :: begun => s.Due p begun b ∧ Timely s p begun

/-- **Of two tries in a row the second was begun when it was due.** -/
theorem Script.Timely.gap : ∀ {begun : List Moment}, s.Timely p begun → ∀ {i : Nat},
    begun.reverse[i]? = some b → begun.reverse[i + 1]? = some b' →
      b' = b + s.duration (i + 1) + p.backoff (i + 1)
  | [], _, _, h, _ => by cases h
  | x :: begun, ⟨hdue, hearlier⟩, i, h, h' => by
      rw [List.reverse_cons] at h h'
      by_cases hlt : i + 1 < begun.length
      · rw [List.getElem?_append_left (by rw [List.length_reverse]; omega)] at h h'
        exact hearlier.gap h h'
      · -- the second of the two is the last of all
        obtain ⟨hlast, rfl⟩ : i + 1 = begun.length ∧ x = b' := by
          have hsome := (List.getElem?_eq_some_iff.mp h').1
          rw [List.length_append, List.length_reverse, List.length_singleton] at hsome
          have heq : i + 1 = begun.length := by omega
          rw [heq, ← List.length_reverse, List.getElem?_concat_length] at h'
          exact ⟨heq, Option.some.inj h'⟩
        rw [List.getElem?_append_left (by rw [List.length_reverse]; omega),
          List.getElem?_reverse (by omega)] at h
        have hhead : b ∈ begun.head? := by
          have hzero : begun.length - 1 - i = 0 := by omega
          rwa [hzero, ← List.head?_eq_getElem?] at h
        rw [hlast]
        exact hdue b hhead

/-- What is known of the clock before a try, if there is to be one. -/
structure Script.Pacing (s : Script α) (p : RetryPolicy) (c : Chronicle) : Prop where
  timely : s.Timely p c.begun
  due : s.Due p c.begun c.now
  /-- The tries so far leave room for another. -/
  room : c.begun.length ≤ p.extraTries
  idle_le : c.idle ≤ (c.begun.length * p.maxBackoffMs.toNat : Nat)

/-- What is known of the clock of a whole play. -/
structure Script.Paced (s : Script α) (p : RetryPolicy) (c : Chronicle) : Prop where
  timely : s.Timely p c.begun
  length_le : c.begun.length ≤ p.extraTries + 1
  idle_le : c.idle ≤ (p.extraTries * p.maxBackoffMs.toNat : Nat)

theorem Script.pacing_start (s : Script α) (p : RetryPolicy) (start : Moment) :
    s.Pacing p (.start start) where
  timely := trivial
  due := fun _ hb => by cases hb
  room := Nat.zero_le _
  idle_le := Int.natCast_nonneg _

/-- A try that is followed by another leaves room for it. -/
theorem Script.room_of_not_final (hmore : ¬s.Final p i) : i ≤ p.extraTries := by
  obtain ⟨_, _, _, hattempts, _⟩ := error_of_not_final hmore
  unfold RetryPolicy.extraTries
  omega

/-- A try is no pause. -/
theorem Script.idle_afterTry {f : Failure} : (s.afterTry p operation f c).idle = c.idle := rfl

namespace Script.Pacing

variable (h : s.Pacing p c)
include h

theorem idle_le_all : c.idle ≤ (p.extraTries * p.maxBackoffMs.toNat : Nat) := by
  have hmul := Nat.mul_le_mul_right p.maxBackoffMs.toNat h.room
  have hidle := h.idle_le
  omega

/-- The call is over before another try. -/
theorem paced : s.Paced p c where
  timely := h.timely
  length_le := Nat.le_succ_of_le h.room
  idle_le := h.idle_le_all

/-- The call is over with another try. -/
theorem tried (duration : Nat) : s.Paced p (c.tried duration) where
  timely := ⟨h.due, h.timely⟩
  length_le := Nat.succ_le_succ h.room
  idle_le := h.idle_le_all

/-- Another try is followed by the pause after it. -/
theorem again {f : Failure} (hmore : ¬s.Final p (c.begun.length + 1)) :
    s.Pacing p ((s.afterTry p operation f c).waited (p.backoff (c.begun.length + 1))) where
  timely := by
    rw [begun_again]
    exact ⟨h.due, h.timely⟩
  due := by
    intro b hb
    rw [begun_again] at hb ⊢
    obtain rfl := Option.some.inj hb
    rw [Chronicle.now_waited]
    rfl
  room := by
    rw [begun_again]
    exact room_of_not_final hmore
  idle_le := by
    have hidle := h.idle_le
    have hdelay := p.backoff_le (c.begun.length + 1)
    rw [Chronicle.idle_waited, idle_afterTry, begun_again, List.length_cons, Nat.succ_mul]
    omega

/-- Another try is followed by a part of the pause after it. -/
theorem interrupted {f : Failure} {t : Moment} (hmore : ¬s.Final p (c.begun.length + 1))
    (hreach : t ≤ (s.afterTry p operation f c).now + p.backoff (c.begun.length + 1)) :
    s.Paced p ((s.afterTry p operation f c).paused (max (s.afterTry p operation f c).now t)) where
  timely := ⟨h.due, h.timely⟩
  length_le := Nat.succ_le_succ h.room
  idle_le := by
    have hidle := h.idle_le
    have hdelay := p.backoff_le (c.begun.length + 1)
    have hall := Nat.mul_le_mul_right p.maxBackoffMs.toNat (room_of_not_final hmore)
    have hpart := Chronicle.idle_paused_le
      (max_le (Int.le_add_of_nonneg_right (Int.natCast_nonneg _)) hreach)
    rw [Nat.succ_mul] at hall
    rw [idle_afterTry] at hpart
    omega

end Script.Pacing

theorem onward_paced (s : Script α) (p : RetryPolicy) (operation : String)
    (cancelAt : Option Moment) :
    ∀ c, s.Pacing p c → s.Paced p (s.onward p operation cancelAt c).2 := by
  refine s.chronicle_induction p (fun c ih hc => ?_)
  by_cases hgoes : c.Cancelled cancelAt
  · rw [Script.onward_cancelled hgoes]
    exact hc.paced
  · by_cases hfinal : s.Final p (c.begun.length + 1)
    · rw [Script.onward_final hgoes hfinal]
      exact hc.tried _
    · obtain ⟨f, hr, _⟩ := Script.error_of_not_final hfinal
      by_cases hreach : p.backoff (c.begun.length + 1) = 0 ∨ ∀ t ∈ cancelAt,
          (s.afterTry p operation f c).now + p.backoff (c.begun.length + 1) < t
      · rw [Script.onward_again hgoes hfinal hr hreach]
        exact ih hfinal _ (congrArg List.length (Script.begun_again _)) (hc.again hfinal)
      · obtain ⟨hdelay, hsoon⟩ := not_or.mp hreach
        push Not at hsoon
        obtain ⟨t, ht, hle⟩ := hsoon
        rw [Script.onward_interrupted hgoes hfinal hr ht hdelay hle]
        exact hc.interrupted hfinal hle

/-- **The law of the pauses**, for every policy and every call, whether it is cancelled at some
moment or not. A try that follows another is begun as soon as the pause after the other is over, and
this pause is the first one doubled from try to try, sixteen times at most, and cut down to the
limit. It differs from the one that goes on doubling only after the seventeenth try, and only below
the limit. Pauses never get shorter nor exceed the limit; words are enough to find them, as factor
and number of tries fit into theirs and a product that does not fit is cut down to the limit anyway;
and all together they are no longer than the limit once for each try that may follow the first. -/
theorem play_pauses (s : Script α) (p : RetryPolicy) (operation : String)
    (cancelAt : Option Moment) (start : Moment) :
    let c := (s.play p operation cancelAt start).2
    (∀ (i : Nat) (b b' : Moment), 1 ≤ i → c.begunAt? i = some b → c.begunAt? (i + 1) = some b' →
      b' = b + s.duration i + p.doubled (min (i - 1) 16)) ∧
    (∀ i : Nat, 1 ≤ i → (p.doubled (min (i - 1) 16) = p.doubled (i - 1) ↔
      i ≤ 17 ∨ p.backoffMs = 0 ∨ p.maxBackoffMs.toNat ≤ p.backoffMs.toNat * 2 ^ 16)) ∧
    (∀ i j : Nat, i ≤ j → p.doubled (min (i - 1) 16) ≤ p.doubled (min (j - 1) 16)) ∧
    (∀ i : Nat, p.doubled (min (i - 1) 16) ≤ p.maxBackoffMs.toNat) ∧
    (∀ i : UInt32, (RetryPolicy.factor i).toNat = 2 ^ min (i.toNat - 1) 16 ∧
      (p.backoffWord i).toNat = p.doubled (min (i.toNat - 1) 16)) ∧
    c.begun.length < UInt32.size ∧
    c.idle ≤ ((p.maxAttempts.toNat - 1) * p.maxBackoffMs.toNat : Nat) := by
  intro c
  have hpaced : s.Paced p c := by
    have honward := onward_paced s p operation cancelAt _ (s.pacing_start p start)
    rwa [← Script.play_eq_onward] at honward
  refine ⟨?_, ?_, ?_, fun i => p.doubled_le _, ?_, ?_, hpaced.idle_le⟩
  · intro i b b' hi hb hb'
    have hprev : i - 1 + 1 = i := by omega
    rw [Chronicle.begunAt?, Nat.add_sub_cancel, ← hprev] at hb'
    have hgap := hpaced.timely.gap hb hb'
    rwa [hprev, p.backoff_eq] at hgap
  · intro i hi
    rw [RetryPolicy.doubled_min_eq_iff]
    refine or_congr_left ?_
    omega
  · intro i j hij
    refine p.doubled_mono ?_
    omega
  · exact fun i => ⟨RetryPolicy.toNat_factor i, p.toNat_backoffWord i⟩
  · have hlength := hpaced.length_le
    have hword := p.maxAttempts.toNat_lt_size
    have hsize : 1 < UInt32.size := by decide
    unfold RetryPolicy.extraTries at hlength
    omega

/-- A call that always times out, and takes no time. -/
def stalled : Script Unit := ⟨fun _ => .error (.of (.system .timedOut "timed out")), fun _ => 0⟩

/-- Pauses that start at a millisecond and may last for a thousand seconds. -/
def patient : RetryPolicy := ⟨19, 19, 1, 1000000⟩

/-- The pause after the eighteenth try is as long as the one before it, though twice as long is
still below the limit. -/
theorem pauses_stop_doubling :
    let c := (stalled.play patient "exists" none 0).2
    c.begunAt? 17 = some 65535 ∧ c.begunAt? 18 = some (65535 + 65536) ∧
      c.begunAt? 19 = some (65535 + 65536 + 65536) ∧ patient.doubled 17 = 131072 := by
  decide +kernel

end Retrying

end Harvest
