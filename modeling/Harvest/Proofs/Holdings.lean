import Harvest.Proofs.Incremental

/-!
# Nothing is held that is not known

The receiver holds what it was handed until it is told to delete it, and the next pass tells it so
only of entries that it knows from the tokens of this one. An entry that is held and not known would
stay with the receiver forever. As long as all passes succeed there is no such entry
(`unbroken_known`), whatever the store does between and during the passes and whatever fails.

The argument goes entry by entry and pass by pass (`Ending.held_known`). The outcome of an entry
that leaves it with the receiver has a token, and an entry of which nothing was found out and that
was held before is kept or retired.
-/

namespace Harvest

variable {σ : Type}

/-- What a pass asks of its processor. -/
def Round.calls (p : Processor (StateM σ)) (seeds : List String) (r : Round σ)
    (before : Standing) : List PassCall :=
  (((p.observed.pass r.schedule).traced.run r.horizon seeds before.versions).run
    ((r.start, []), [])).2.2

variable {p : Processor (StateM σ)} {seeds : List String} {r : Round σ} {before : Standing}
  {calls : List PassCall} {c : PassCall} {report : Report} {previous : VersionMap} {horizon : Nat}
  {id : String} {inv : σ → Prop} {s t : σ × List Event}

/-! ## What the calls of a pass tell the receiver -/

/-- The state of an observed pass after some calls: the ledger is that of the calls. -/
structure Logged (p : Processor (StateM σ)) (calls : List PassCall) (s : σ × List Event) :
    Prop where
  lines : ledger s.2 = calls.flatMap PassCall.lines
  sound : ∀ c ∈ calls, Sound p.observed (fun _ => True) c

theorem Answers.observed {α : Type} {act : Action (StateM σ) α} {note : α → List Event} {a : α}
    (h : Answers (fun _ => True) act a) : Answers (fun _ => True) (watch act note) a := by
  obtain ⟨s', s, _, hrun⟩ := h
  refine ⟨(s', [] ++ note a), (s, []), trivial, ?_⟩
  have hbeside : (beside act.run).run (s, ([] : List Event)) = (.ok a, s', []) := by
    change ((act.run.run s).1, (act.run.run s).2, []) = _
    rw [hrun]
  unfold watch noting
  rw [ExceptT.run_mk, StateT.run_bind, hbeside]
  rfl

/-- Whatever a call comes to is about its own entry, and leads only where the store leads. -/
theorem Grounded.sound {fault : Prop} (h : Grounded p (fun _ => True) fault c) :
    Sound p.observed (fun _ => True) c := by
  cases c with
  | process id known result =>
      cases result with
      | error e => exact fun o ho => by cases ho
      | ok o =>
          intro o' ho
          obtain rfl := Except.ok.inj ho
          rcases h with hv | ⟨⟨reason, rfl⟩, _⟩
          · refine ⟨hv.id_eq, fun child hchild => ?_⟩
            obtain ⟨listing, hanswer, hlisted⟩ := hv.lists child hchild
            exact ⟨listing, hanswer.observed, hlisted⟩
          · exact ⟨rfl, fun child hchild => by cases hchild⟩
  | retire id result =>
      intro o ho
      subst ho
      exact h
  | stop => trivial

theorem Logged.step (h : Logged p calls s) {told : Option Outcome}
    (hs : Noted (fun _ => True) s.2 told t) (hlines : told.elim [] Outcome.lines = c.lines)
    (hc : Sound p.observed (fun _ => True) c) : Logged p (calls ++ [c]) t := by
  obtain ⟨_, _, hledger⟩ := hs
  refine ⟨?_, List.forall_mem_append.mpr ⟨h.sound, List.forall_mem_singleton.mpr hc⟩⟩
  rw [hledger, h.lines, hlines, List.flatMap_append, List.flatMap_singleton]

theorem Logged.silent (h : Logged p calls s) (ht : Noted (fun _ => True) s.2 none t) :
    Logged p calls t := by
  obtain ⟨_, _, hledger⟩ := ht
  refine ⟨?_, h.sound⟩
  rw [hledger, h.lines]
  exact List.append_nil _

/-- **What the receiver is told is what the calls of a pass come to**, whatever the store does. -/
theorem logged_keeps (p : Processor (StateM σ)) (schedule : Schedule) (previous : VersionMap) :
    Keeps (p.observed.pass schedule) previous (Logged p) :=
  observed_keeps (conduct_trivial p) schedule previous (fun _ _ _ => trivial)
    (fun _ _ _ _ _ hs hnoted hlines hc => hs.step hnoted hlines hc.sound)
    (fun _ _ _ hs hnoted => hs.silent hnoted)

/-- A pass ends in one of the ways of `Ending`, and the ledger is that of its calls. -/
theorem Round.logged (p : Processor (StateM σ)) (seeds : List String) (r : Round σ)
    (before : Standing) :
    Ending before.versions seeds r.horizon (r.calls p seeds before) (r.result p seeds before) ∧
      ledger (r.events p seeds before) = (r.calls p seeds before).flatMap PassCall.lines ∧
      ∀ c ∈ r.calls p seeds before, Sound p.observed (fun _ => True) c := by
  obtain ⟨hend, hlogged⟩ := run_traced (logged_keeps p r.schedule before.versions) r.horizon seeds
    (s := (r.start, [])) ⟨rfl, fun c hc => by cases hc⟩
  -- traces and notes aside, it is the pass itself
  obtain ⟨htrace, hstate⟩ := (traced_follows (p.observed.pass r.schedule)).run r.horizon seeds
    before.versions ((r.start, []), [])
  have hresult := ((observed_follows p r.schedule).run r.horizon seeds before.versions
    (r.start, [])).1
  rw [htrace, hresult] at hend
  rw [hstate] at hlogged
  exact ⟨hend, hlogged.lines, hlogged.sound⟩

/-! ## One pass -/

/-- An entry that was given to the processor and is held in the end is known. -/
theorem Ending.held_known_visited {p : Processor (StateM σ)}
    (hend : Ending previous seeds horizon calls (some (.ok report)))
    (hsound : ∀ c ∈ calls, Sound p inv c) {known held : Option String}
    {result : Except CrawlError Outcome} (hc : .process id known result ∈ calls)
    (hknown : held.isSome → id ∈ previous)
    (hheld : (heldAfter held (PassCall.process id known result).lines).isSome) :
    report.versions[id]?.isSome := by
  have hreck := hend.reckoned (silent_of_sound hsound)
  obtain ⟨progress, rfl, hrem⟩ := hreck.tokens
  have hv : ((id, result) : Visit) ∈ visits calls := mem_visits.mpr ⟨known, hc⟩
  cases result with
  | ok o =>
      -- only a deletion has no token, and of what was deleted nothing is held
      have hid : o.id = id := (hsound _ hc o rfl).1
      cases o with
      | ingest id' token bytes => exact hrem.told id token ⟨_, hv, _, rfl, hid, rfl⟩
      | delete id' reason => cases hheld
      | skip id' reason token => exact hrem.told id token ⟨_, hv, _, rfl, hid, rfl⟩
  | error e =>
      -- nothing was told, so it was held before, and has to wait
      obtain ⟨d, hd, hid⟩ := hreck.waits id e hv
      exact hrem.kept id ⟨d, hd, Or.inl hid⟩
        (Std.TreeMap.mem_iff_isSome_getElem?.mp (hknown hheld))

/-- **A pass that succeeds knows what is held in the end**, if it was handed what was held before.
-/
theorem Ending.held_known {p : Processor (StateM σ)}
    (hend : Ending previous seeds horizon calls (some (.ok report)))
    (hsound : ∀ c ∈ calls, Sound p inv c) {held : Option String}
    (hknown : held.isSome → id ∈ previous)
    (hheld : (heldAfter held (linesOn id (calls.flatMap PassCall.lines))).isSome) :
    id ∈ report.versions := by
  have hproper : ∀ c ∈ calls, c.Proper := fun c hc => (hsound c hc).proper
  have hsilent := silent_of_sound hsound
  rw [Std.TreeMap.mem_iff_isSome_getElem?]
  by_cases hvisited : id ∈ visited calls
  · obtain ⟨⟨_, result⟩, hv, rfl⟩ := List.mem_map.mp hvisited
    obtain ⟨known, hc⟩ := mem_visits.mp hv
    rw [linesOn_flatMap hproper hend.ids_nodup hc rfl] at hheld
    exact hend.held_known_visited hsound hc hknown hheld
  by_cases hretired : id ∈ retirees calls
  · -- what was retired is not held
    obtain ⟨result, hc⟩ := mem_retirees.mp hretired
    obtain ⟨o, rfl⟩ := hend.retired_ok hc
    obtain rfl : o = .delete id "no longer reachable from seeds" := hsound _ hc o rfl
    rw [linesOn_flatMap hproper hend.ids_nodup hc rfl] at hheld
    cases hheld
  · have huncalled : id ∉ calls.filterMap PassCall.id? := fun h =>
      (mem_ids.mp h).elim hvisited hretired
    rw [linesOn_flatMap_of_not_mem hproper huncalled] at hheld
    have hmem := hknown hheld
    -- it was held before, and it was kept since it was not retired
    rcases (hend.covered hsilent).known id hmem with h | h | h
    · exact absurd h hvisited
    · obtain ⟨progress, rfl, hrem⟩ := (hend.reckoned hsilent).tokens
      exact hrem.kept id h.awaited (Std.TreeMap.mem_iff_isSome_getElem?.mp hmem)
    · exact absurd h hretired

/-! ## Pass after pass -/

/-- Where a series of passes can lead in which every pass succeeds. Each pass has a processor, seeds
and circumstances of its own. -/
inductive Unbroken : Standing → Prop where
  | start : Unbroken .empty
  | next {σ : Type} {before : Standing} (h : Unbroken before) (p : Processor (StateM σ))
      (seeds : List String) (r : Round σ) (report : Report)
      (hreport : r.report? p seeds before = some report) : Unbroken (r.after p seeds before)

theorem after_versions (h : r.report? p seeds before = some report) :
    (r.after p seeds before).versions = report.versions := by
  unfold Round.after
  rw [h]
  rfl

/-- The receiver is told to delete what a pass retires. -/
theorem Round.index_of_retired (hreport : r.report? p seeds before = some report)
    (h : id ∈ retirees (r.calls p seeds before)) : (r.after p seeds before).index id = none := by
  obtain ⟨hend, hlines, hsound⟩ := r.logged p seeds before
  rw [Round.report?_eq_some hreport] at hend
  obtain ⟨result, hc⟩ := mem_retirees.mp h
  obtain ⟨o, rfl⟩ := hend.retired_ok hc
  obtain rfl : o = .delete id "no longer reachable from seeds" := hsound _ hc o rfl
  change heldAfter _ (linesOn id (ledger (r.events p seeds before))) = none
  rw [hlines, linesOn_flatMap (fun c hc => (hsound c hc).proper) hend.ids_nodup hc rfl]
  rfl

/-- **Nothing is held that is not known.** After passes that have all succeeded, whatever the stores
did and whatever failed, every entry that the receiver holds has a token. So the next pass that
succeeds and neither visits the entry nor keeps it below one that has to wait has it deleted. -/
theorem unbroken_known {before : Standing} (h : Unbroken before) :
    (∀ id, (before.index id).isSome → id ∈ before.versions) ∧
      ∀ {σ : Type} (p : Processor (StateM σ)) (seeds : List String) (r : Round σ)
        (report : Report), r.report? p seeds before = some report →
          ∀ id, (before.index id).isSome → id ∉ visited (r.calls p seeds before) →
            ¬Sheltered report.deferred id → id ∈ retirees (r.calls p seeds before) ∧
              (r.after p seeds before).index id = none := by
  have hknown : ∀ id, (before.index id).isSome → id ∈ before.versions := by
    induction h with
    | start =>
        intro id hheld
        cases hheld
    | @next σ before h p seeds r report hreport ih =>
        intro id hheld
        obtain ⟨hend, hlines, hsound⟩ := r.logged p seeds before
        rw [Round.report?_eq_some hreport] at hend
        have hheld : (heldAfter (before.index id)
            (linesOn id (ledger (r.events p seeds before)))).isSome := hheld
        rw [hlines] at hheld
        rw [after_versions hreport]
        exact hend.held_known hsound (ih id) hheld
  refine ⟨hknown, ?_⟩
  intro σ p seeds r report hreport id hheld hunvisited hfree
  obtain ⟨hend, _, hsound⟩ := r.logged p seeds before
  rw [Round.report?_eq_some hreport] at hend
  have hretired : id ∈ retirees (r.calls p seeds before) := by
    rcases (hend.covered (silent_of_sound hsound)).known id (hknown id hheld) with h | h | h
    · exact absurd h hunvisited
    · exact absurd h hfree
    · exact h
  exact ⟨hretired, Round.index_of_retired hreport hretired⟩

/-- After two passes, the second of which has to leave the folder for later. -/
def stalledStanding : Standing :=
  stalledRound.after takingCrawl folderSeeds (filledRound.after takingCrawl folderSeeds .empty)

theorem stalled_unbroken : Unbroken stalledStanding := by
  have hfirst : (filledRound.report? takingCrawl folderSeeds .empty).isSome := by decide +kernel
  have hsecond : (stalledRound.report? takingCrawl folderSeeds
      (filledRound.after takingCrawl folderSeeds .empty)).isSome := by decide +kernel
  obtain ⟨first, hfirst⟩ := Option.isSome_iff_exists.mp hfirst
  obtain ⟨second, hsecond⟩ := Option.isSome_iff_exists.mp hsecond
  exact .next (.next .start takingCrawl folderSeeds filledRound first hfirst) takingCrawl
    folderSeeds stalledRound second hsecond

/-- Both leaves are held and known, and the one that the next pass does not get to is deleted. -/
theorem unbroken_known_stalled :
    "/a" ∈ stalledStanding.versions ∧ "/b" ∈ stalledStanding.versions ∧
      (stalledStanding.index "/b").isSome ∧
      (filledRound.after takingCrawl ["/"] stalledStanding).index "/b" = none := by
  obtain ⟨hknown, hlater⟩ := unbroken_known stalled_unbroken
  have hdeferred : (filledRound.report? takingCrawl ["/"] stalledStanding).map Report.deferred =
      some [] := by decide +kernel
  obtain ⟨report, hreport, hnone⟩ := Option.map_eq_some_iff.mp hdeferred
  refine ⟨hknown "/a" (by decide +kernel), hknown "/b" (by decide +kernel), by decide +kernel, ?_⟩
  refine (hlater takingCrawl ["/"] filledRound report hreport "/b" (by decide +kernel)
    (by decide +kernel) ?_).2
  intro h0
  obtain ⟨d, hd, _⟩ := h0
  rw [hnone] at hd
  cases hd

end Harvest
