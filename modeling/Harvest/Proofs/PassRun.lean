import Harvest.Proofs.Ensures
import Harvest.Proofs.Progress

/-!
# Runs of a pass

`Ending` says in which ways a pass can end, and what is known in each of them about the visits that
it made and the entries that it retired. `run_ensures` shows that these are all, whatever the
entries come to and in whatever order each level is visited.

The calls of a pass are spoken of through an invariant, which may relate the calls so far with the
state they have led to (`Keeps`). So whoever knows what one call does to the state learns at the
same time what the whole pass does to it, and after which calls.
-/

namespace Harvest

/-- What a pass asks its processor for, and what comes of it. -/
inductive PassCall where
  | process (id : String) (known : Option String) (result : Except CrawlError Outcome)
  | retire (id : String) (result : Except CrawlError Outcome)
  /-- The pass finds itself cancelled. -/
  | stop

/-- The request behind a visit. -/
def processed (previous : VersionMap) (v : Visit) : PassCall := .process v.1 previous[v.1]? v.2

/-- The request behind the end of an entry. -/
def retirement (v : Visit) : PassCall := .retire v.1 v.2

/-- The requests of a pass that makes the visits `done` and then retires entries. -/
def passCalls (previous : VersionMap) (done retired : List Visit) : List PassCall :=
  done.map (processed previous) ++ retired.map retirement

/-- Whatever has a report has succeeded. -/
theorem ok_of_toOption {result : Option (Except CrawlError Report)} {report : Report}
    (h : result.bind Except.toOption = some report) : result = some (.ok report) := by
  cases result with
  | none => cases h
  | some result =>
      cases result with
      | error e => cases h
      | ok report' =>
          obtain rfl : report' = report := Option.some.inj h
          rfl

variable {σ : Type} {p : Pass (StateM σ)} {previous : VersionMap} {seeds : List String}
  {inv : List PassCall → σ → Prop} {calls : List PassCall} {done : List Visit}
  {progress : Progress} {horizon : Nat}

/-- Every request of the pass keeps an invariant of the requests and the state. -/
structure Keeps (p : Pass (StateM σ)) (previous : VersionMap)
    (inv : List PassCall → σ → Prop) : Prop where
  process : ∀ calls id, Ensures (inv calls) (p.process id previous[id]?)
    (fun result => inv (calls ++ [.process id previous[id]? result]))
  retire : ∀ calls id, Ensures (inv calls) (p.retire id)
    (fun result => inv (calls ++ [.retire id result]))
  isCancelled : ∀ calls, Ensures (inv calls) p.monitor.isCancelled
    (fun cancelled => inv (if cancelled then calls ++ [.stop] else calls))
  warn : ∀ calls w, Ensures (inv calls) (p.monitor.warn w) (fun _ => inv calls)

/-! ## One level -/

theorem visitAll_ensures (h : Keeps p previous inv) : ∀ (ids : List String) (calls),
    Ensures (inv calls) (p.visitAll previous ids)
      (fun visits s => visits.map Prod.fst = ids ∧ inv (calls ++ visits.map (processed previous)) s)
  | [], calls => by
      refine Ensures.pure (fun s hs => ⟨rfl, ?_⟩)
      rw [List.map_nil, List.append_nil]
      exact hs
  | id :: ids, calls => by
      refine (h.process calls id).bind (fun result => ?_)
      refine (visitAll_ensures h ids _).bind (fun visits => ?_)
      refine Ensures.pure ?_
      intro s h0
      obtain ⟨hids, hs⟩ := h0
      refine ⟨congrArg (id :: ·) hids, ?_⟩
      rw [List.append_assoc] at hs
      exact hs

theorem announce_ensures (h : Keeps p previous inv) (v : Visit) :
    Ensures (inv calls) (p.announce v) (fun _ => inv calls) := by
  unfold Pass.announce
  split
  · exact h.warn calls _
  · exact Ensures.pure (fun _ hs => hs)

theorem absorbAll_ensures (h : Keeps p previous inv) :
    ∀ (visits done : List Visit) (progress : Progress),
      Accounted previous seeds done (visits.map Prod.fst ++ progress.next) progress →
      Remembered previous done progress →
      Ensures (inv calls) (p.absorbAll previous progress visits) (fun result s => inv calls s ∧
        match result with
        | .ok progress' => Accounted previous seeds (done ++ visits) progress'.next progress' ∧
            Remembered previous (done ++ visits) progress'
        | .error e => ∃ v ∈ visits, v.2 = .error e ∧ deferral? v = none)
  | [], done, progress, hseen, hrem => by
      refine Ensures.pure (fun s hs => ⟨hs, ?_⟩)
      rw [List.append_nil]
      exact ⟨hseen, hrem⟩
  | v :: visits, done, progress, hseen, hrem => by
      refine (announce_ensures h v).bind (fun _ => ?_)
      cases hv : progress.absorb previous v with
      | error e =>
          exact Ensures.pure (fun s hs => ⟨hs, v, List.mem_cons_self, absorb_error hv⟩)
      | ok progress' =>
          have hseen' := absorb_accounted hseen hv
          have hrem' := absorb_remembered hrem hv
          refine (absorbAll_ensures h visits (done ++ [v]) progress' hseen' hrem').imp
            (fun _ hs => hs) ?_
          intro result s h0
          obtain ⟨hs, hresult⟩ := h0
          refine ⟨hs, ?_⟩
          cases result with
          | error e =>
              obtain ⟨w, hw, hfail⟩ := hresult
              exact ⟨w, List.mem_cons_of_mem _ hw, hfail⟩
          | ok progress'' =>
              rw [List.append_assoc] at hresult
              exact hresult

/-! ## All levels -/

/-- What a pass knows when it has gone through its levels, or has given up on them. -/
inductive LevelsEnding (previous : VersionMap) (seeds : List String) (horizon : Nat) :
    List PassCall → Option (Except CrawlError Progress) → Prop where
  /-- There are more levels than the pass was to look at. Each gave it something new to visit. -/
  | beyond {done : List Visit} {pending : List String} {progress : Progress}
      (hseen : Accounted previous seeds done pending progress) (hmore : pending ≠ [])
      (hlong : horizon ≤ done.length) :
      LevelsEnding previous seeds horizon (done.map (processed previous)) none
  /-- The pass was cancelled before a level. -/
  | cancelled {done : List Visit} (honce : (done.map Prod.fst).Nodup)
      (hled : ∀ v ∈ done, Led seeds done v.1) :
      LevelsEnding previous seeds horizon (done.map (processed previous) ++ [.stop])
        (some (.error .cancelled))
  /-- A visit ended the pass. -/
  | failed {done : List Visit} {v : Visit} {e : CrawlError} (honce : (done.map Prod.fst).Nodup)
      (hled : ∀ v ∈ done, Led seeds done v.1) (hv : v ∈ done) (he : v.2 = .error e)
      (hfatal : deferral? v = none) :
      LevelsEnding previous seeds horizon (done.map (processed previous)) (some (.error e))
  /-- Everything that was found has been visited. -/
  | exhausted {done : List Visit} {progress : Progress}
      (hseen : Accounted previous seeds done [] progress)
      (hrem : Remembered previous done progress) :
      LevelsEnding previous seeds horizon (done.map (processed previous)) (some (.ok progress))

theorem levels_ensures (h : Keeps p previous inv) :
    ∀ (left level : Nat) (frontier : List String) (done : List Visit) (progress : Progress),
      Accounted previous seeds done frontier progress → Remembered previous done progress →
      horizon ≤ done.length + left →
      Ensures (inv (done.map (processed previous)))
        (p.levels previous left level frontier progress)
        (fun result s => ∃ calls, LevelsEnding previous seeds horizon calls result ∧ inv calls s)
  | left, level, [], done, progress, hseen, hrem, _ => by
      rw [Pass.levels]
      exact Ensures.pure (fun s hs => ⟨_, .exhausted hseen hrem, hs⟩)
  | 0, level, id :: ids, done, progress, hseen, _, hlong => by
      rw [Pass.levels]
      exact Ensures.pure (fun s hs => ⟨_, .beyond hseen (List.cons_ne_nil id ids) hlong, hs⟩)
  | left + 1, level, id :: ids, done, progress, hseen, hrem, hlong => by
      rw [Pass.levels]
      refine (h.isCancelled _).bind (fun cancelled => ?_)
      refine Ensures.ite (fun hc => ?_) (fun hc => ?_)
      · -- the pass stops with the visits of the levels before
        refine Ensures.pure (fun s hs => ?_)
        rw [if_pos hc] at hs
        have honce := (List.nodup_append.mp hseen.once).1
        have hled : ∀ v ∈ done, Led seeds done v.1 := fun v hv =>
          hseen.led v.1 (List.mem_append_left _ (List.mem_map_of_mem hv))
        exact ⟨_, .cancelled honce hled, hs⟩
      · rw [if_neg hc]
        refine (visitAll_ensures h _ _).bind (fun visits => ?_)
        -- the visits of a level go by another order of the same identifiers
        by_cases hids : visits.map Prod.fst = p.schedule.order level (id :: ids)
        · have hlevel : Accounted previous seeds done
              (visits.map Prod.fst ++ []) { progress with next := [] } := by
            rw [hids, List.append_nil]
            exact hseen.perm (p.schedule.perm level (id :: ids)).symm []
          refine ((absorbAll_ensures h visits done _ hlevel (hrem.withNext [])).imp
            (fun _ hs => hs.2) (fun _ _ hs => hs)).bind ?_
          intro result
          cases result with
          | error e =>
              refine Ensures.pure ?_
              intro s h0
              obtain ⟨hs, v, hv, hfail⟩ := h0
              rw [← List.map_append] at hs
              have honce := hlevel.once
              rw [List.append_nil, ← List.map_append] at honce
              have hled : ∀ v ∈ done ++ visits, Led seeds (done ++ visits) v.1 := by
                intro w hw
                refine (hlevel.led w.1 ?_).append visits
                rw [List.append_nil, ← List.map_append]
                exact List.mem_map_of_mem hw
              exact ⟨_, .failed honce hled (List.mem_append_right _ hv) hfail.1 hfail.2, hs⟩
          | ok progress' =>
              rw [← List.map_append]
              refine ⟨?_⟩
              intro s h0
              obtain ⟨hs, hseen', hrem'⟩ := h0
              have hsorted : Accounted previous seeds (done ++ visits) (sortIds progress'.next)
                  progress' := hseen'.perm (List.mergeSort_perm progress'.next _).symm _
              -- a level is never empty, so every level adds a visit
              have hone : visits.length = (id :: ids).length := by
                rw [← List.length_map (f := Prod.fst), hids]
                exact (p.schedule.perm level (id :: ids)).length_eq
              rw [List.length_cons] at hone
              have hlong' : horizon ≤ (done ++ visits).length + left := by
                rw [List.length_append]
                omega
              exact (levels_ensures h left (level + 1) _ (done ++ visits) progress' hsorted hrem'
                hlong').run s hs
        · -- every identifier of the level is visited, so this does not happen
          exact ⟨fun s hs => absurd hs.1 hids⟩

/-! ## The entries that are left over -/

/-- What a pass knows when it has retired entries, or has given up on it. -/
inductive RetireEnding (ids : List String) (report : Report) :
    List PassCall → Except CrawlError Report → Prop where
  /-- The pass was cancelled before an entry. -/
  | cancelled (retired : List Visit) :
      RetireEnding ids report (retired.map retirement ++ [.stop]) (.error .cancelled)
  /-- An entry could not be retired. -/
  | failed (retired : List Visit) {v : Visit} {e : CrawlError} (hv : v ∈ retired)
      (he : v.2 = .error e) : RetireEnding ids report (retired.map retirement) (.error e)
  /-- Every entry was retired, and each made its outcome part of the report. -/
  | finished (retired : List Visit) (outcomes : List Outcome) (hids : retired.map Prod.fst = ids)
      (houtcomes : retired.map Prod.snd = outcomes.map .ok) :
      RetireEnding ids report (retired.map retirement) (.ok (outcomes.foldl Report.record report))

/-- One more entry is retired before the others. -/
theorem RetireEnding.cons {ids : List String} {report : Report} {id : String} {o : Outcome}
    {result : Except CrawlError Report} (h : RetireEnding ids (report.record o) calls result) :
    RetireEnding (id :: ids) report (.retire id (.ok o) :: calls) result := by
  cases h with
  | cancelled retired => exact .cancelled ((id, .ok o) :: retired)
  | failed retired hv he => exact .failed _ (List.mem_cons_of_mem (id, .ok o) hv) he
  | finished retired outcomes hids houtcomes =>
      exact .finished ((id, .ok o) :: retired) (o :: outcomes)
        (congrArg (id :: ·) hids) (congrArg (Except.ok o :: ·) houtcomes)

theorem retireAll_ensures (h : Keeps p previous inv) :
    ∀ (ids : List String) (before : List PassCall) (report : Report),
      Ensures (inv before) (p.retireAll report ids) (fun result s => ∃ calls,
        RetireEnding ids report calls result ∧ inv (before ++ calls) s)
  | [], before, report => by
      refine Ensures.pure (fun s hs => ⟨_, .finished [] [] rfl rfl, ?_⟩)
      rw [List.map_nil, List.append_nil]
      exact hs
  | id :: ids, before, report => by
      rw [Pass.retireAll]
      refine (h.isCancelled _).bind (fun cancelled => ?_)
      refine Ensures.ite (fun hc => ?_) (fun hc => ?_)
      · rw [if_pos hc]
        exact Ensures.pure (fun s hs => ⟨_, .cancelled [], hs⟩)
      · rw [if_neg hc]
        refine (h.retire before id).bind (fun result => ?_)
        cases result with
        | error e =>
            exact Ensures.pure (fun s hs =>
              ⟨_, .failed [(id, .error e)] (List.mem_singleton_self _) rfl, hs⟩)
        | ok o =>
            refine (retireAll_ensures h ids _ (report.record o)).imp (fun _ hs => hs) ?_
            intro result s h0
            obtain ⟨calls, hend, hs⟩ := h0
            rw [List.append_assoc] at hs
            exact ⟨_, hend.cons, hs⟩

/-! ## The whole pass -/

/-- The ways in which a pass ends, and the requests that it has made by then. -/
inductive Ending (previous : VersionMap) (seeds : List String) (horizon : Nat) :
    List PassCall → Option (Except CrawlError Report) → Prop where
  /-- There are more levels than the pass was to look at. -/
  | beyond {done : List Visit} {pending : List String} {progress : Progress}
      (hseen : Accounted previous seeds done pending progress) (hmore : pending ≠ [])
      (hlong : horizon ≤ done.length) :
      Ending previous seeds horizon (passCalls previous done []) none
  /-- The pass was cancelled, before a level or before it retired an entry. -/
  | cancelled {done retired : List Visit} (honce : (done.map Prod.fst).Nodup)
      (hled : ∀ v ∈ done, Led seeds done v.1) :
      Ending previous seeds horizon (passCalls previous done retired ++ [.stop])
        (some (.error .cancelled))
  /-- A visit ended the pass, or an entry could not be retired. -/
  | failed {done retired : List Visit} {e : CrawlError} (honce : (done.map Prod.fst).Nodup)
      (hled : ∀ v ∈ done, Led seeds done v.1)
      (hcause : (∃ v ∈ done, v.2 = .error e ∧ deferral? v = none) ∨ ∃ v ∈ retired, v.2 = .error e) :
      Ending previous seeds horizon (passCalls previous done retired) (some (.error e))
  /-- Everything that was found has been visited, and what was known before and has not been seen
  has been retired. -/
  | finished {done retired : List Visit} {progress : Progress} {outcomes : List Outcome}
      (hseen : Accounted previous seeds done [] progress)
      (hrem : Remembered previous done progress)
      (horphans : retired.map Prod.fst = Pass.orphans previous progress.seen)
      (houtcomes : retired.map Prod.snd = outcomes.map .ok) :
      Ending previous seeds horizon (passCalls previous done retired)
        (some (.ok (outcomes.foldl Report.record progress.report)))

theorem passCalls_nil : passCalls previous done [] = done.map (processed previous) :=
  List.append_nil _

theorem finish_ensures (h : Keeps p previous inv)
    (hseen : Accounted previous seeds done [] progress) (hrem : Remembered previous done progress) :
    Ensures (inv (done.map (processed previous)))
      (return some (← p.retireAll progress.report (Pass.orphans previous progress.seen)))
      (fun result s => ∃ calls, Ending previous seeds horizon calls result ∧ inv calls s) := by
  have honce := hseen.once
  rw [List.append_nil] at honce
  have hled : ∀ v ∈ done, Led seeds done v.1 := fun v hv =>
    hseen.led v.1 (List.mem_append_left _ (List.mem_map_of_mem hv))
  refine (retireAll_ensures h _ _ _).bind (fun result => Ensures.pure ?_)
  intro s h0
  obtain ⟨calls, hend, hs⟩ := h0
  cases hend with
  | cancelled =>
      rw [← List.append_assoc] at hs
      exact ⟨_, .cancelled honce hled, hs⟩
  | failed _ hv he => exact ⟨_, .failed honce hled (Or.inr ⟨_, hv, he⟩), hs⟩
  | finished _ _ hids houtcomes => exact ⟨_, .finished hseen hrem hids houtcomes, hs⟩

/-- **How a pass ends.** Whatever its entries come to, and in whatever order it visits each level,
it ends in one of the ways of `Ending`, and the invariant holds for the requests that it has made.
-/
theorem run_ensures (h : Keeps p previous inv) (horizon : Nat) (seeds : List String) :
    Ensures (inv []) (p.run horizon seeds previous)
      (fun result s => ∃ calls, Ending previous seeds horizon calls result ∧ inv calls s) := by
  refine Ensures.bind (levels_ensures h horizon 0 _ [] _ (accounted_start previous seeds)
    (remembered_start previous seeds) (Nat.le_add_left _ _)) (fun result => ⟨?_⟩)
  intro s h0
  obtain ⟨calls, hend, hs⟩ := h0
  cases hend with
  | beyond hseen hmore hlong =>
      rw [← passCalls_nil] at hs
      exact ⟨_, .beyond hseen hmore hlong, hs⟩
  | cancelled honce hled =>
      rw [← passCalls_nil] at hs
      exact ⟨_, .cancelled honce hled, hs⟩
  | failed honce hled hv he hfatal =>
      rw [← passCalls_nil] at hs
      exact ⟨_, .failed honce hled (Or.inl ⟨_, hv, he, hfatal⟩), hs⟩
  | exhausted hseen hrem => exact (finish_ensures h hseen hrem).run s hs

end Harvest
