import Harvest.Crawl.Pass

/-!
# The horizon of a pass

A pass looks at so many levels at most. Where that is enough, looking further changes nothing:
neither the result nor the state that the pass leaves.
-/

namespace Harvest

variable {σ α β : Type} {p : Pass (StateM σ)} {previous : VersionMap}

/-- Where the second action has a result, the first one does the same. -/
def Extends (act' act : StateM σ (Option α)) : Prop :=
  ∀ s, (act.run s).1.isSome → act'.run s = act.run s

theorem Extends.refl (act : StateM σ (Option α)) : Extends act act := fun _ _ => rfl

theorem Extends.bind {act : StateM σ β} {next' next : β → StateM σ (Option α)}
    (h : ∀ b, Extends (next' b) (next b)) : Extends (act >>= next') (act >>= next) :=
  fun s hs => h (act.run s).1 (act.run s).2 hs

theorem Extends.ite {c : Prop} [Decidable c] {yes' yes no' no : StateM σ (Option α)}
    (hyes : Extends yes' yes) (hno : Extends no' no) :
    Extends (if c then yes' else no') (if c then yes else no) := by
  split
  · exact hyes
  · exact hno

/-- Levels that suffice are as good as one more. -/
theorem levels_succ : ∀ (horizon level : Nat) (frontier : List String) (progress : Progress),
    Extends (p.levels previous (horizon + 1) level frontier progress)
      (p.levels previous horizon level frontier progress)
  | _, _, [], _ => by
      rw [Pass.levels, Pass.levels]
      exact .refl _
  | 0, _, _ :: _, _ => by
      intro s h
      rw [Pass.levels] at h
      cases h
  | horizon + 1, level, id :: ids, progress => by
      rw [Pass.levels, Pass.levels]
      refine .bind (fun _ => .ite (.refl _) (.bind (fun visits => .bind (fun result => ?_))))
      cases result with
      | error e => exact .refl _
      | ok progress => exact levels_succ horizon _ _ progress

/-- What has no result as long as its first action has none extends with its first action. -/
theorem Extends.first {act' act : StateM σ (Option β)} {next : Option β → StateM σ (Option α)}
    (h : Extends act' act) (hnone : ∀ s, ((next none).run s).1 = none) :
    Extends (act' >>= next) (act >>= next) := by
  intro s hs
  change ((next (act.run s).1).run (act.run s).2).1.isSome at hs
  change (next (act'.run s).1).run (act'.run s).2 = (next (act.run s).1).run (act.run s).2
  cases hr : (act.run s).1 with
  | none =>
      -- then the whole has no result either
      rw [hr, hnone] at hs
      cases hs
  | some b => rw [h s (by rw [hr]; rfl), hr]

theorem run_succ (horizon : Nat) (seeds : List String) :
    Extends (p.run (horizon + 1) seeds previous) (p.run horizon seeds previous) :=
  (levels_succ horizon 0 _ _).first (fun _ => rfl)

/-- **A horizon that suffices plays no further part.** -/
theorem run_horizon {horizon : Nat} {seeds : List String} {s : σ}
    (h : ((p.run horizon seeds previous).run s).1.isSome) :
    ∀ more, (p.run (horizon + more) seeds previous).run s = (p.run horizon seeds previous).run s
  | 0 => rfl
  | more + 1 => by
      have ih := run_horizon h more
      rw [← Nat.add_assoc, run_succ (horizon + more) seeds s (by rw [ih]; exact h), ih]

end Harvest
