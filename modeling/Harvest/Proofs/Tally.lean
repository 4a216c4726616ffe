import Harvest.Proofs.Tracing

/-!
# What a report adds up to

A report is put together while the pass goes on, in between the work on levels, frontiers and seen
identifiers. None of that enters into it: the report of a pass is what its calls add up to, taken in
the order in which they were made (`run_traced_report`). So two passes report alike if their calls
are alike, and what the order of the calls has to do with it can be asked of `Report.add` alone.
The counters, at least, have nothing to do with it (`foldl_add_counts`, `foldl_count_perm`).
-/

namespace Harvest

variable {σ : Type} {p : Pass (StateM σ)} {previous : VersionMap} {inv : List PassCall → σ → Prop}
  {calls : List PassCall} {progress progress' : Progress} {v : Visit} {d : Deferral}
  {report : Report}

/-- Takes over an entry of the previous pass. -/
def Report.keep (r : Report) (entry : String × String) : Report := r.remember entry.1 (some entry.2)

/-- What an entry that is left to a later pass makes of the report. -/
def Report.postpone (previous : VersionMap) (r : Report) (d : Deferral) : Report :=
  ((previous.below d.id).foldl Report.keep (r.remember d.id previous[d.id]?)).defer d

/-- What a call makes of the report. -/
def Report.add (previous : VersionMap) (r : Report) : PassCall → Report
  | .process _ _ (.ok o) => r.record o
  | .process id _ (.error (.transient _ message window)) =>
      r.postpone previous ⟨id, message, window⟩
  | .retire _ (.ok o) => r.record o
  | _ => r

/-! ## One visit -/

theorem foldl_keep_report : ∀ (entries : List (String × String)) (progress : Progress),
    (entries.foldl Progress.keep progress).report = entries.foldl Report.keep progress.report
  | [], _ => rfl
  | _ :: entries, _ => foldl_keep_report entries _

theorem postpone_report :
    (progress.postpone previous d).report = progress.report.postpone previous d := by
  unfold Progress.postpone Report.postpone
  exact congrArg (Report.defer · d) (foldl_keep_report _ _)

theorem add_of_deferral (h : deferral? v = some d) (r : Report) :
    r.add previous (processed previous v) = r.postpone previous d := by
  unfold deferral? at h
  split at h
  · obtain rfl := Option.some.inj h
    rfl
  · cases h

/-- What a visit makes of the report is a matter of the report. -/
theorem absorb_report (h : progress.absorb previous v = .ok progress') :
    progress'.report = progress.report.add previous (processed previous v) := by
  rcases absorb_ok h with ⟨o, ho, rfl⟩ | ⟨d, hd, rfl⟩
  · obtain ⟨id, result⟩ := v
    obtain rfl : result = .ok o := ho
    rfl
  · rw [add_of_deferral hd]
    exact postpone_report

/-! ## The whole pass -/

theorem absorbAll_report (h : Keeps p previous inv) : ∀ (visits : List Visit) (progress : Progress),
    Ensures (inv calls) (p.absorbAll previous progress visits) (fun result s => inv calls s ∧
      ∀ progress', result = .ok progress' →
        progress'.report =
          (visits.map (processed previous)).foldl (Report.add previous) progress.report)
  | [], progress => by
      refine Ensures.pure (fun s hs => ⟨hs, fun progress' hok => ?_⟩)
      rw [← Except.ok.inj hok]
      rfl
  | v :: visits, progress => by
      refine (announce_ensures h v).bind (fun _ => ?_)
      cases hv : progress.absorb previous v with
      | error e => exact Ensures.pure (fun s hs => ⟨hs, fun _ hok => by cases hok⟩)
      | ok progress' =>
          have hrest := absorbAll_report h visits progress'
          rw [absorb_report hv] at hrest
          exact hrest

theorem levels_report (h : Keeps p previous inv) :
    ∀ (left level : Nat) (frontier : List String) (calls : List PassCall) (progress : Progress),
      progress.report = calls.foldl (Report.add previous) .empty →
      Ensures (inv calls) (p.levels previous left level frontier progress)
        (fun result s => ∃ calls, inv calls s ∧ ∀ progress', result = some (.ok progress') →
          progress'.report = calls.foldl (Report.add previous) .empty)
  | left, level, [], calls, progress, hreport => by
      rw [Pass.levels]
      refine Ensures.pure (fun s hs => ⟨calls, hs, fun progress' hok => ?_⟩)
      rw [← Except.ok.inj (Option.some.inj hok)]
      exact hreport
  | 0, level, id :: ids, calls, progress, _ => by
      rw [Pass.levels]
      exact Ensures.pure (fun s hs => ⟨calls, hs, fun _ hok => by cases hok⟩)
  | left + 1, level, id :: ids, calls, progress, hreport => by
      rw [Pass.levels]
      refine (h.isCancelled calls).bind (fun cancelled => ?_)
      refine Ensures.ite (fun _ => ?_) (fun hc => ?_)
      · exact Ensures.pure (fun s hs => ⟨_, hs, fun _ hok => by cases hok⟩)
      · rw [if_neg hc]
        refine (visitAll_ensures h _ calls).bind (fun visits => ?_)
        have habsorb : Ensures (inv (calls ++ visits.map (processed previous)))
            (p.absorbAll previous { progress with next := [] } visits) _ :=
          absorbAll_report h visits _
        refine (habsorb.imp (fun _ hs => hs.2) (fun _ _ hs => hs)).bind (fun result => ?_)
        cases result with
        | error e => exact Ensures.pure (fun s hs => ⟨_, hs.1, fun _ hok => by cases hok⟩)
        | ok progress' =>
            refine ⟨?_⟩
            intro s h0
            obtain ⟨hs, hlevel⟩ := h0
            have hnext := hlevel progress' rfl
            rw [hreport, ← List.foldl_append] at hnext
            exact (levels_report h left (level + 1) _ _ progress' hnext).run s hs

theorem retireAll_report (h : Keeps p previous inv) :
    ∀ (ids : List String) (calls : List PassCall) (report : Report),
      report = calls.foldl (Report.add previous) .empty →
      Ensures (inv calls) (p.retireAll report ids)
        (fun result s => ∃ calls, inv calls s ∧ ∀ report', result = .ok report' →
          report' = calls.foldl (Report.add previous) .empty)
  | [], calls, report, hreport => by
      refine Ensures.pure (fun s hs => ⟨calls, hs, fun report' hok => ?_⟩)
      rw [← Except.ok.inj hok]
      exact hreport
  | id :: ids, calls, report, hreport => by
      rw [Pass.retireAll]
      refine (h.isCancelled calls).bind (fun cancelled => ?_)
      refine Ensures.ite (fun _ => ?_) (fun hc => ?_)
      · exact Ensures.pure (fun s hs => ⟨_, hs, fun _ hok => by cases hok⟩)
      · rw [if_neg hc]
        refine (h.retire calls id).bind (fun result => ?_)
        cases result with
        | error e => exact Ensures.pure (fun s hs => ⟨_, hs, fun _ hok => by cases hok⟩)
        | ok o =>
            refine retireAll_report h ids _ (report.record o) ?_
            rw [List.foldl_append, ← hreport]
            rfl

theorem run_report (h : Keeps p previous inv) (horizon : Nat) (seeds : List String) :
    Ensures (inv []) (p.run horizon seeds previous)
      (fun result s => ∃ calls, inv calls s ∧ ∀ report, result = some (.ok report) →
        report = calls.foldl (Report.add previous) .empty) := by
  refine (levels_report h horizon 0 _ [] _ rfl).bind (fun result => ⟨?_⟩)
  intro s h0
  obtain ⟨calls, hs, hlevels⟩ := h0
  cases result with
  | none => exact ⟨calls, hs, fun _ hok => by cases hok⟩
  | some result =>
      cases result with
      | error e => exact ⟨calls, hs, fun _ hok => by cases hok⟩
      | ok progress =>
          have hretire := retireAll_report h (Pass.orphans previous progress.seen) calls
            progress.report (hlevels progress rfl)
          obtain ⟨calls', hs', hreport⟩ := hretire.run s hs
          exact ⟨calls', hs', fun report hok => hreport report (Option.some.inj hok)⟩

/-- **A report is what the calls of its pass add up to.** -/
theorem run_traced_report (p : Pass (StateM σ)) (horizon : Nat) (seeds : List String)
    (previous : VersionMap) (s : σ) (report : Report)
    (hreport : ((p.traced.run horizon seeds previous).run (s, [])).1 = some (.ok report)) :
    report = ((p.traced.run horizon seeds previous).run (s, [])).2.2.foldl
      (Report.add previous) .empty := by
  -- whatever is done, the requests are noted
  have hany : Keeps p previous (fun _ _ => True) :=
    { process := fun _ _ => ⟨fun _ _ => trivial⟩
      retire := fun _ _ => ⟨fun _ _ => trivial⟩
      isCancelled := fun _ => ⟨fun _ _ => trivial⟩
      warn := fun _ _ => ⟨fun _ _ => trivial⟩ }
  obtain ⟨calls, ⟨_, hcalls⟩, hadds⟩ :=
    (run_report hany.traced horizon seeds).run (s, []) ⟨trivial, rfl⟩
  rw [hcalls]
  exact hadds report hreport

/-! ## Counters -/

/-- The counters of a report. -/
def Report.counts (r : Report) : Report := { r with deferred := [], versions := ∅ }

/-- The outcome that a call came to. -/
def PassCall.outcome? : PassCall → Option Outcome
  | .process _ _ (.ok o) => some o
  | .retire _ (.ok o) => some o
  | _ => none

theorem remember_counts (r : Report) (id : String) (t : Option String) :
    (r.remember id t).counts = r.counts := by cases t <;> rfl

theorem count_counts (r : Report) (o : Outcome) : (r.count o).counts = r.counts.count o := by
  unfold Report.count
  split <;> rfl

theorem record_counts (r : Report) (o : Outcome) : (r.record o).counts = r.counts.count o := by
  rw [Report.record, remember_counts, count_counts]

theorem foldl_keep_counts : ∀ (entries : List (String × String)) (r : Report),
    (entries.foldl Report.keep r).counts = r.counts
  | [], _ => rfl
  | _ :: entries, r => (foldl_keep_counts entries _).trans (remember_counts r _ _)

/-- An entry that has to wait is not counted. -/
theorem postpone_counts (r : Report) : (r.postpone previous d).counts = r.counts :=
  (foldl_keep_counts _ _).trans (remember_counts r _ _)

theorem add_counts (r : Report) (c : PassCall) :
    (r.add previous c).counts = c.outcome?.elim r.counts r.counts.count := by
  cases c with
  | process id known result =>
      cases result with
      | ok o => exact record_counts r o
      | error e =>
          cases e with
          | transient operation message window => exact postpone_counts r
          | absent => rfl
          | cancelled => rfl
          | fatal => rfl
          | config => rfl
  | retire id result =>
      cases result with
      | ok o => exact record_counts r o
      | error e => rfl
  | stop => rfl

/-- The counters are those of the outcomes. -/
theorem foldl_add_counts : ∀ (calls : List PassCall) (r : Report),
    (calls.foldl (Report.add previous) r).counts =
      (calls.filterMap PassCall.outcome?).foldl Report.count r.counts
  | [], _ => rfl
  | c :: calls, r => by
      rw [List.foldl_cons, foldl_add_counts calls, add_counts, List.filterMap_cons]
      cases c.outcome? with
      | none => rfl
      | some o => rfl

/-- It does not matter which of two outcomes is counted first. -/
theorem count_comm (r : Report) (o o' : Outcome) :
    (r.count o).count o' = (r.count o').count o := by
  unfold Report.count
  split <;> split <;> simp only [Nat.add_right_comm]

theorem foldl_count_perm {outcomes outcomes' : List Outcome} (h : outcomes.Perm outcomes')
    (r : Report) : outcomes.foldl Report.count r = outcomes'.foldl Report.count r :=
  h.foldl_eq' (fun o _ o' _ r => count_comm r o o') r

end Harvest
