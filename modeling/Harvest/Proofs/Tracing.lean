import Harvest.Proofs.PassRun

/-!
# Watching a run

A run is watched by letting it carry notes beside its state. The watched program does what the
program does: forgetting the notes gives back the run as it was (`Shadows`), so what the notes say
is said of the program itself.

`Pass.traced` is the pass that notes what it asks for.
-/

namespace Harvest

variable {σ τ α β : Type}

/-- Runs on the state, and leaves what stands beside it alone. -/
def beside (act : StateM σ α) : StateM (σ × τ) α := do
  let s ← get
  let r := act.run s.1
  set (r.2, s.2)
  return r.1

/-- Runs on the state, and adds a note of the result to what stands beside it. -/
def noting (act : StateM σ α) (note : α → τ → τ) : StateM (σ × τ) α := do
  let a ← beside act
  modify (fun s => (s.1, note a s.2))
  return a

/-! ## Forgetting the notes -/

/-- The first action does what the second one does, apart from what stands beside the state. -/
def Shadows (act' : StateM (σ × τ) α) (act : StateM σ α) : Prop :=
  ∀ s, (act'.run s).1 = (act.run s.1).1 ∧ (act'.run s).2.1 = (act.run s.1).2

namespace Shadows

theorem pure (a : α) : Shadows (Pure.pure a : StateM (σ × τ) α) (Pure.pure a) :=
  fun _ => ⟨rfl, rfl⟩

theorem beside (act : StateM σ α) : Shadows (Harvest.beside act : StateM (σ × τ) α) act :=
  fun _ => ⟨rfl, rfl⟩

theorem bind {act' : StateM (σ × τ) α} {act : StateM σ α} {next' : α → StateM (σ × τ) β}
    {next : α → StateM σ β} (hact : Shadows act' act) (hnext : ∀ a, Shadows (next' a) (next a)) :
    Shadows (act' >>= next') (act >>= next) := by
  intro s
  obtain ⟨hresult, hstate⟩ := hact s
  have hrest := hnext (act.run s.1).1 (act'.run s).2
  rw [hstate] at hrest
  change ((next' (act'.run s).1).run (act'.run s).2).1 = _ ∧
    ((next' (act'.run s).1).run (act'.run s).2).2.1 = _
  rw [hresult]
  exact hrest

theorem ite {c : Prop} [Decidable c] {yes' no' : StateM (σ × τ) α} {yes no : StateM σ α}
    (hyes : Shadows yes' yes) (hno : Shadows no' no) :
    Shadows (if c then yes' else no') (if c then yes else no) := by
  split
  · exact hyes
  · exact hno

theorem noting (act : StateM σ α) (note : α → τ → τ) : Shadows (Harvest.noting act note) act :=
  fun _ => ⟨rfl, rfl⟩

end Shadows

/-! ## Passes that are watched -/

/-- The calls of the first pass do what those of the second do. -/
structure Follows (p' : Pass (StateM (σ × τ))) (p : Pass (StateM σ)) : Prop where
  process : ∀ id known, Shadows (p'.process id known) (p.process id known)
  retire : ∀ id, Shadows (p'.retire id) (p.retire id)
  isCancelled : Shadows p'.monitor.isCancelled p.monitor.isCancelled
  warn : ∀ w, Shadows (p'.monitor.warn w) (p.monitor.warn w)
  schedule : p'.schedule = p.schedule

namespace Follows

variable {p' : Pass (StateM (σ × τ))} {p : Pass (StateM σ)} {previous : VersionMap}

theorem visitAll (h : Follows p' p) : ∀ ids : List String,
    Shadows (p'.visitAll previous ids) (p.visitAll previous ids)
  | [] => .pure _
  | _ :: ids => .bind (h.process _ _) (fun _ => .bind (visitAll h ids) (fun _ => .pure _))

theorem announce (h : Follows p' p) (v : Visit) : Shadows (p'.announce v) (p.announce v) := by
  unfold Pass.announce
  split
  · exact h.warn _
  · exact .pure _

theorem absorbAll (h : Follows p' p) : ∀ (visits : List Visit) (progress : Progress),
    Shadows (p'.absorbAll previous progress visits) (p.absorbAll previous progress visits)
  | [], _ => .pure _
  | v :: visits, progress => by
      refine .bind (h.announce v) (fun _ => ?_)
      cases progress.absorb previous v with
      | error e => exact .pure _
      | ok progress => exact absorbAll h visits progress

theorem levels (h : Follows p' p) :
    ∀ (horizon level : Nat) (frontier : List String) (progress : Progress),
      Shadows (p'.levels previous horizon level frontier progress)
        (p.levels previous horizon level frontier progress)
  | _, _, [], _ => by
      rw [Pass.levels, Pass.levels]
      exact .pure _
  | 0, _, _ :: _, _ => by
      rw [Pass.levels, Pass.levels]
      exact .pure _
  | horizon + 1, level, id :: ids, progress => by
      -- both passes go through the level in the same order
      rw [Pass.levels, Pass.levels, h.schedule]
      refine .bind h.isCancelled (fun _ => .ite (.pure _) (.bind (h.visitAll _) ?_))
      refine fun visits => .bind (h.absorbAll visits _) (fun result => ?_)
      cases result with
      | error e => exact .pure _
      | ok progress => exact levels h horizon _ _ progress

theorem retireAll (h : Follows p' p) : ∀ (ids : List String) (report : Report),
    Shadows (p'.retireAll report ids) (p.retireAll report ids)
  | [], _ => .pure _
  | _ :: ids, report => by
      refine .bind h.isCancelled (fun _ => .ite (.pure _) (.bind (h.retire _) (fun result => ?_)))
      cases result with
      | error e => exact .pure _
      | ok o => exact retireAll h ids _

/-- **A watched pass does what the pass does.** -/
theorem run (h : Follows p' p) (horizon : Nat) (seeds : List String) (previous : VersionMap) :
    Shadows (p'.run horizon seeds previous) (p.run horizon seeds previous) := by
  refine .bind (h.levels horizon 0 _ _) (fun result => ?_)
  cases result with
  | none => exact .pure _
  | some result =>
      cases result with
      | error e => exact .pure _
      | ok progress => exact .bind (h.retireAll _ _) (fun _ => .pure _)

end Follows

/-! ## The trace of a pass -/

/-- The pass that notes what it asks for, and what comes of it. -/
def Pass.traced (p : Pass (StateM σ)) : Pass (StateM (σ × List PassCall)) where
  process id known :=
    noting (p.process id known) (fun result calls => calls ++ [.process id known result])
  retire id := noting (p.retire id) (fun result calls => calls ++ [.retire id result])
  monitor :=
    { now := beside p.monitor.now
      isCancelled := noting p.monitor.isCancelled
        (fun cancelled calls => if cancelled then calls ++ [.stop] else calls)
      pause := fun delay => beside (p.monitor.pause delay)
      warn := fun w => beside (p.monitor.warn w) }
  schedule := p.schedule

theorem traced_follows (p : Pass (StateM σ)) : Follows p.traced p where
  process := fun _ _ => .noting _ _
  retire := fun _ => .noting _ _
  isCancelled := .noting _ _
  warn := fun _ => .beside _
  schedule := rfl

/-! ## What is noted -/

variable {p : Pass (StateM σ)} {previous : VersionMap} {inv : σ → Prop}
  {fact : PassCall → Prop} {keep : List PassCall → σ → Prop}

/-- What every request keeps is kept of the requests that are noted. -/
theorem Keeps.traced (h : Keeps p previous keep) :
    Keeps p.traced previous (fun calls s => keep calls s.1 ∧ s.2 = calls) where
  process := by
    refine fun calls id => ⟨?_⟩
    intro s h0
    obtain ⟨hs, rfl⟩ := h0
    exact ⟨(h.process s.2 id).run s.1 hs, rfl⟩
  retire := by
    refine fun calls id => ⟨?_⟩
    intro s h0
    obtain ⟨hs, rfl⟩ := h0
    exact ⟨(h.retire s.2 id).run s.1 hs, rfl⟩
  isCancelled := by
    refine fun calls => ⟨?_⟩
    intro s h0
    obtain ⟨hs, rfl⟩ := h0
    exact ⟨(h.isCancelled s.2).run s.1 hs, rfl⟩
  warn := by
    refine fun calls w => ⟨?_⟩
    intro s h0
    obtain ⟨hs, hcalls⟩ := h0
    exact ⟨(h.warn calls w).run s.1 hs, hcalls⟩

/-- **What holds after a traced pass.** It ends in one of the ways of `Ending`, by the requests that
it has noted, and with what every request keeps. -/
theorem run_traced (h : Keeps p previous keep) (horizon : Nat) (seeds : List String) {s : σ}
    (hs : keep [] s) :
    Ending previous seeds horizon ((p.traced.run horizon seeds previous).run (s, [])).2.2
        ((p.traced.run horizon seeds previous).run (s, [])).1 ∧
      keep ((p.traced.run horizon seeds previous).run (s, [])).2.2
        ((p.traced.run horizon seeds previous).run (s, [])).2.1 := by
  obtain ⟨calls, hend, hkeep, hcalls⟩ :=
    (run_ensures h.traced horizon seeds).run (s, []) ⟨hs, rfl⟩
  rw [hcalls]
  exact ⟨hend, hkeep⟩

/-- Every call of the pass keeps an invariant of the state, and comes to what is a fact. -/
structure Minds (p : Pass (StateM σ)) (previous : VersionMap) (inv : σ → Prop)
    (fact : PassCall → Prop) : Prop where
  process : ∀ id, Ensures inv (p.process id previous[id]?)
    (fun result s => inv s ∧ fact (.process id previous[id]? result))
  retire : ∀ id, Ensures inv (p.retire id) (fun result s => inv s ∧ fact (.retire id result))
  isCancelled : Ensures inv p.monitor.isCancelled (fun _ => inv)
  warn : ∀ w, Ensures inv (p.monitor.warn w) (fun _ => inv)
  stop : fact .stop

theorem Minds.keeps (h : Minds p previous inv fact) :
    Keeps p previous (fun calls s => inv s ∧ ∀ c ∈ calls, fact c) where
  process := by
    refine fun calls id => ⟨?_⟩
    intro s h0
    obtain ⟨hs, hfacts⟩ := h0
    obtain ⟨hs', hfact⟩ := (h.process id).run s hs
    exact ⟨hs', List.forall_mem_append.mpr ⟨hfacts, List.forall_mem_singleton.mpr hfact⟩⟩
  retire := by
    refine fun calls id => ⟨?_⟩
    intro s h0
    obtain ⟨hs, hfacts⟩ := h0
    obtain ⟨hs', hfact⟩ := (h.retire id).run s hs
    exact ⟨hs', List.forall_mem_append.mpr ⟨hfacts, List.forall_mem_singleton.mpr hfact⟩⟩
  isCancelled := by
    refine fun calls => ⟨?_⟩
    intro s h0
    obtain ⟨hs, hfacts⟩ := h0
    refine ⟨h.isCancelled.run s hs, ?_⟩
    split
    · exact List.forall_mem_append.mpr ⟨hfacts, List.forall_mem_singleton.mpr h.stop⟩
    · exact hfacts
  warn := by
    refine fun calls w => ⟨?_⟩
    intro s h0
    obtain ⟨hs, hfacts⟩ := h0
    exact ⟨(h.warn w).run s hs, hfacts⟩

/-- **How a traced pass ends.** It ends in one of the ways of `Ending`, by the requests that it has
noted, and each of these came to what is a fact. -/
theorem run_traced_ending (h : Minds p previous inv fact) (horizon : Nat) (seeds : List String)
    {s : σ} (hs : inv s) :
    Ending previous seeds horizon ((p.traced.run horizon seeds previous).run (s, [])).2.2
        ((p.traced.run horizon seeds previous).run (s, [])).1 ∧
      ∀ c ∈ ((p.traced.run horizon seeds previous).run (s, [])).2.2, fact c := by
  obtain ⟨hend, _, hfacts⟩ := run_traced h.keeps horizon seeds ⟨hs, fun c hc => by cases hc⟩
  exact ⟨hend, hfacts⟩

end Harvest
