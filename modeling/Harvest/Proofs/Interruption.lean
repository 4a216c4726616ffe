import Mathlib.Order.Lattice
import Harvest.Crawl.CrawlError
import Harvest.Proofs.Tries

/-!
# Calls that are cancelled

Two plays of the same script are set side by side, one that nobody cancels and one that is cancelled
at a moment `t`. As long as the clock has not reached `t` they are one and the same. The first time
it has reached `t` before a try or within a pause, the cancelled play is over, and all that the
other one still begins, it begins at `t` or later (`CutShort.of_late`).

So a cancellation takes away the tries that would begin at `t` or later, and nothing else
(`play_cutShort`); a try that is under way is not given up, and what it comes to is not lost.
-/

namespace Harvest.Retrying

variable {α : Type} {s : Script α} {p : RetryPolicy} {operation : String} {c d e : Chronicle}
  {t : Moment}

/-! ## What a play adds to a chronicle -/

/-- All that a later chronicle has more has begun since. -/
structure Chronicle.Extends (d c : Chronicle) : Prop where
  now : c.now ≤ d.now
  begun : ∃ new, d.begun = new ++ c.begun ∧ ∀ b ∈ new, c.now ≤ b
  pauses : ∃ new, d.pauses = new ++ c.pauses ∧ ∀ w ∈ new, c.now ≤ w.1
  warnings : c.warnings <:+ d.warnings

namespace Chronicle.Extends

theorem trans (h : e.Extends d) (h' : d.Extends c) : e.Extends c where
  now := h'.now.trans h.now
  begun := by
    obtain ⟨new, hnew, hlate⟩ := h.begun
    obtain ⟨new', hnew', hlate'⟩ := h'.begun
    refine ⟨new ++ new', by rw [hnew, hnew', List.append_assoc], fun b hb => ?_⟩
    rcases List.mem_append.mp hb with hb | hb
    · exact h'.now.trans (hlate b hb)
    · exact hlate' b hb
  pauses := by
    obtain ⟨new, hnew, hlate⟩ := h.pauses
    obtain ⟨new', hnew', hlate'⟩ := h'.pauses
    refine ⟨new ++ new', by rw [hnew, hnew', List.append_assoc], fun w hw => ?_⟩
    rcases List.mem_append.mp hw with hw | hw
    · exact h'.now.trans (hlate w hw)
    · exact hlate' w hw
  warnings := h'.warnings.trans h.warnings

theorem refl (c : Chronicle) : c.Extends c where
  now := le_rfl
  begun := ⟨[], rfl, nofun⟩
  pauses := ⟨[], rfl, nofun⟩
  warnings := List.suffix_rfl

theorem tried (c : Chronicle) (duration : Nat) : (c.tried duration).Extends c where
  now := Int.le_add_of_nonneg_right (Int.natCast_nonneg duration)
  begun := ⟨[c.now], rfl, fun _ hb => (List.mem_singleton.mp hb).ge⟩
  pauses := ⟨[], rfl, nofun⟩
  warnings := List.suffix_rfl

theorem warned (c : Chronicle) (w : Warning) : (c.warned w).Extends c where
  now := le_rfl
  begun := ⟨[], rfl, nofun⟩
  pauses := ⟨[], rfl, nofun⟩
  warnings := List.suffix_cons w c.warnings

theorem paused {ending : Moment} (h : c.now ≤ ending) : (c.paused ending).Extends c where
  now := h
  begun := ⟨[], rfl, nofun⟩
  pauses := ⟨[(c.now, ending)], rfl, fun w hw => by rw [List.mem_singleton.mp hw]⟩
  warnings := List.suffix_rfl

theorem waited (c : Chronicle) (delay : Nat) : (c.waited delay).Extends c := by
  unfold Chronicle.waited
  split
  · exact refl c
  · exact paused (Int.le_add_of_nonneg_right (Int.natCast_nonneg delay))

theorem afterTry (s : Script α) (p : RetryPolicy) (operation : String) (f : Failure)
    (c : Chronicle) : (s.afterTry p operation f c).Extends c :=
  (warned _ _).trans (tried _ _)

end Chronicle.Extends

/-- What is still to come begins now or later, and the next try begins now. -/
theorem onward_extends (s : Script α) (p : RetryPolicy) (operation : String) :
    ∀ c, (s.onward p operation none c).2.Extends c ∧
      c.now ∈ (s.onward p operation none c).2.begun := by
  refine s.chronicle_induction p (fun c ih => ?_)
  by_cases hfinal : s.Final p (c.begun.length + 1)
  · rw [Script.onward_final c.not_cancelled_none hfinal]
    exact ⟨.tried c _, List.mem_cons_self⟩
  · obtain ⟨f, hr, _⟩ := Script.error_of_not_final hfinal
    rw [Script.onward_uncancelled hfinal hr]
    obtain ⟨hmore, _⟩ := ih hfinal _ (congrArg List.length (Script.begun_again _))
    refine ⟨hmore.trans ((Chronicle.Extends.waited _ _).trans (.afterTry s p operation f c)), ?_⟩
    obtain ⟨new, hnew, _⟩ := hmore.begun
    rw [hnew, Script.begun_again]
    exact List.mem_append_right _ List.mem_cons_self

/-! ## Two plays side by side -/

/-- All tries begun and all pauses ended before `t`. -/
structure Chronicle.Before (c : Chronicle) (t : Moment) : Prop where
  begun : ∀ b ∈ c.begun, b < t
  pauses : ∀ w ∈ c.pauses, w.2 < t

/-- How a call goes that is cancelled at `t`, set against how it goes if nobody cancels it. -/
structure CutShort (t : Moment) (full cut : Except Failure α × Chronicle) : Prop where
  /-- The tries are those that begin before `t`. -/
  begun : cut.2.begun = full.2.begun.filter (· < t)
  /-- A call that begins no try and waits in no pause at `t` or later is left as it is. -/
  same : full.2.Before t → cut = full
  /-- Any other is a cancelled call. -/
  cancelled : ¬full.2.Before t → cut.1 = .error .cancelled
  /-- A pause that `t` falls into ends at once, and the call with it. -/
  interrupted : ∀ w ∈ full.2.pauses, w.1 ≤ t → t ≤ w.2 → cut.1 = .error .cancelled ∧ cut.2.now = t
  /-- Nothing is said that would not be said otherwise. -/
  warnings : cut.2.warnings <:+ full.2.warnings

namespace CutShort

/-- What is over in time is not cut short. -/
theorem of_before {out : Except Failure α × Chronicle} (h : out.2.Before t) :
    CutShort t out out where
  begun := (List.filter_eq_self.mpr (fun b hb => decide_eq_true (h.begun b hb))).symm
  same := fun _ => rfl
  cancelled := fun hnot => absurd h hnot
  interrupted := fun w hw _ hle => absurd (h.pauses w hw) (not_lt.mpr hle)
  warnings := List.suffix_rfl

/-- The clock has reached `t`, and the cancelled play is over in `d`; the other one goes on from
`e`. -/
theorem of_late (hbegun : d.begun = e.begun) (hwarnings : d.warnings = e.warnings)
    (hearly : ∀ b ∈ e.begun, b < t) (hlate : t ≤ e.now) (hnow : e.now = t → d.now = t)
    (hpauses : ∀ w ∈ e.pauses, w.1 ≤ t → t ≤ w.2 → d.now = t) :
    CutShort t (s.onward p operation none e) (.error .cancelled, d) := by
  obtain ⟨hmore, hnext⟩ := onward_extends s p operation e
  constructor
  · obtain ⟨new, hnew, hsince⟩ := hmore.begun
    have hnone : new.filter (· < t) = [] := by
      refine List.filter_eq_nil_iff.mpr (fun b hb hlt => ?_)
      exact absurd (of_decide_eq_true hlt) (not_lt.mpr (hlate.trans (hsince b hb)))
    have hall : e.begun.filter (· < t) = e.begun :=
      List.filter_eq_self.mpr (fun b hb => decide_eq_true (hearly b hb))
    rw [hnew, List.filter_append, hnone, hall, List.nil_append]
    exact hbegun
  · intro hbefore
    exact absurd (hbefore.begun _ hnext) (not_lt.mpr hlate)
  · exact fun _ => rfl
  · intro w hw hfrom huntil
    refine ⟨rfl, ?_⟩
    obtain ⟨new, hnew, hsince⟩ := hmore.pauses
    rw [hnew] at hw
    rcases List.mem_append.mp hw with hw | hw
    · exact hnow (le_antisymm ((hsince w hw).trans hfrom) hlate)
    · exact hpauses w hw hfrom huntil
  · rw [hwarnings]
    exact hmore.warnings

end CutShort

theorem Chronicle.before_start (start t : Moment) : (Chronicle.start start).Before t where
  begun := fun _ hb => absurd hb List.not_mem_nil
  pauses := fun _ hw => absurd hw List.not_mem_nil

/-- A try that begins before `t` is one more. -/
theorem Chronicle.Before.begin (h : c.Before t) (hgoes : c.now < t)
    (hbegun : d.begun = c.now :: c.begun) (hpauses : d.pauses = c.pauses) : d.Before t where
  begun := by
    rw [hbegun]
    intro b hb
    rcases List.mem_cons.mp hb with rfl | hb
    · exact hgoes
    · exact h.begun b hb
  pauses := hpauses ▸ h.pauses

theorem Chronicle.Before.waited {delay : Nat} (h : c.Before t)
    (hreach : delay = 0 ∨ c.now + delay < t) : (c.waited delay).Before t := by
  unfold Chronicle.waited
  split
  · exact h
  · rename_i hdelay
    refine ⟨h.begun, fun w hw => ?_⟩
    rcases List.mem_cons.mp hw with rfl | hw
    · exact hreach.resolve_left hdelay
    · exact h.pauses w hw

theorem onward_cutShort (s : Script α) (p : RetryPolicy) (operation : String) (t : Moment) :
    ∀ c, c.Before t →
      CutShort t (s.onward p operation none c) (s.onward p operation (some t) c) := by
  refine s.chronicle_induction p (fun c ih hc => ?_)
  by_cases hgoes : c.Cancelled (some t)
  · -- the clock has reached `t` in a try, or in a pause of no time
    rw [Script.onward_cancelled hgoes]
    obtain ⟨_, ⟨⟩, hlate⟩ := hgoes
    exact .of_late rfl rfl hc.begun hlate id
      (fun w hw _ hle => absurd (hc.pauses w hw) (not_lt.mpr hle))
  · have hlt : c.now < t := not_le.mp (fun hle => hgoes ⟨t, rfl, hle⟩)
    by_cases hfinal : s.Final p (c.begun.length + 1)
    · rw [Script.onward_final c.not_cancelled_none hfinal, Script.onward_final hgoes hfinal]
      exact .of_before (hc.begin hlt rfl rfl)
    · obtain ⟨f, hr, _⟩ := Script.error_of_not_final hfinal
      have hafter : (s.afterTry p operation f c).Before t := hc.begin hlt rfl rfl
      rw [Script.onward_uncancelled hfinal hr]
      by_cases hreach : p.backoff (c.begun.length + 1) = 0 ∨
          (s.afterTry p operation f c).now + p.backoff (c.begun.length + 1) < t
      · have hroom := hreach.imp_right (fun h t' (ht : t' ∈ some t) => Option.mem_some.mp ht ▸ h)
        rw [Script.onward_again hgoes hfinal hr hroom]
        exact ih hfinal _ (congrArg List.length (Script.begun_again _)) (hafter.waited hreach)
      · obtain ⟨hdelay, hle⟩ := not_or.mp hreach
        rw [Script.onward_interrupted hgoes hfinal hr rfl hdelay (not_lt.mp hle),
          Chronicle.waited, if_neg hdelay]
        -- the pause goes on to some moment after `t`, or ends with `t`
        refine .of_late rfl rfl hafter.begun (not_lt.mp hle) (fun heq => ?_)
          (fun w hw hfrom huntil => ?_)
        · exact max_eq_right ((Int.le_add_of_nonneg_right (Int.natCast_nonneg _)).trans heq.le)
        · rcases List.mem_cons.mp hw with rfl | hw
          · exact max_eq_right hfrom
          · exact absurd (hafter.pauses w hw) (not_lt.mpr huntil)

/-- **A cancellation cuts a call short and changes nothing else.** The tries of a call that is
cancelled at `t` are those that begin before `t` if nobody cancels it. If all of it is over by then,
it is the same call; otherwise it fails as cancelled, and at `t` itself if `t` falls into a pause.
And that failure stops the crawl as a cancellation: no entry is put off or given up for it. -/
theorem play_cutShort (p : RetryPolicy) (operation : String) (s : Script α) (start t : Moment) :
    CutShort t (s.play p operation none start) (s.play p operation (some t) start) ∧
      ∀ now id, CrawlError.ofFailure now operation id .cancelled = .cancelled := by
  constructor
  · rw [Script.play_eq_onward, Script.play_eq_onward]
    exact onward_cutShort s p operation t _ (Chronicle.before_start start t)
  · exact fun _ _ => rfl

/-- A call that is always busy, and takes no time. -/
def busy : Script Nat := ⟨fun _ => .error (.plain "pipe busy"), fun _ => 0⟩

example :
    let cut := (busy.play ⟨5, 3, 60000, 60000⟩ "exists" (some 20) 0).2
    cut.begun = [0] ∧ cut.now = 20 := by decide +kernel

end Harvest.Retrying
