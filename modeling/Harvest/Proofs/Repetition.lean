import Harvest.Proofs.Holdings
import Harvest.Proofs.Tally

/-!
# Crawling what has not changed

A pass over a store that stands still, in which nothing fails, is determined by the store and the
tokens known before, entry by entry (`Planned`). An entry that was handed over has left a token that
makes the next pass rely on it, and any other entry comes to what it came to before
(`Processor.plan_again`). Both passes visit the same entries, since what a pass is led to does not
depend on the tokens. So the second pass hands over nothing, leaves the tokens as they are, and
counts the same but for that (`pass_repeats`).
-/

namespace Harvest

variable {σ : Type} {p : Processor (StateM σ)} {inv : σ → Prop} {S : Snapshot}
  {verdict : String → Bool} {seeds : List String} {r : Round σ} {before : Standing}
  {previous : VersionMap} {horizon horizon' : Nat} {calls calls' : List PassCall} {c : PassCall}
  {report report' : Report} {id : String} {known : Option String} {o : Outcome}
  {s s' : σ × List Event}

/-! ## One entry, twice -/

/-- The token that is left of an entry that nothing fails for. -/
def Processor.tokenAfter (p : Processor (StateM σ)) (S : Snapshot) (verdict : String → Bool)
    (id : String) (known : Option String) : Option String :=
  if p.plan S verdict id known = .drop then none else some (p.token (S.entry p.encoder id))

/-- What becomes of an entry the second time. -/
def Plan.again : Plan → Plan
  | .take => .keep
  | plan => plan

theorem Plan.again_eq_drop (plan : Plan) : plan.again = .drop ↔ plan = .drop := by
  cases plan <;> decide

theorem Planned.token_eq (h : Planned p S verdict id known o) :
    o.token? = p.tokenAfter S verdict id known := by
  rw [h.token, h.plan, Processor.tokenAfter]

theorem tokenAfter_of_drop (h : p.plan S verdict id known = .drop) :
    p.tokenAfter S verdict id known = none := if_pos h

theorem tokenAfter_of_ne (h : p.plan S verdict id known ≠ .drop) :
    p.tokenAfter S verdict id known = some (p.token (S.entry p.encoder id)) := if_neg h

/-- **The second time, an entry that was handed over is left alone**, and any other entry comes to
what it came to before. -/
theorem Processor.plan_again (p : Processor (StateM σ)) (S : Snapshot) (verdict : String → Bool)
    (id : String) (known : Option String) :
    p.plan S verdict id (p.tokenAfter S verdict id known) = (p.plan S verdict id known).again := by
  have hspec := plan_spec p S verdict id known
  cases hplan : p.plan S verdict id known with
  | take =>
      rw [hplan] at hspec
      obtain ⟨hadmits, hkind, _⟩ := hspec
      rw [tokenAfter_of_ne (hplan ▸ nofun), plan_leaf hadmits hkind, if_pos rfl]
      rfl
  | drop =>
      rw [hplan] at hspec
      rw [tokenAfter_of_drop hplan]
      rcases hspec with hclosed | ⟨hadmits, hkind, hreject, _⟩
      · exact plan_closed hclosed
      · -- without a token, the entry is as new as before
        rw [plan_leaf hadmits hkind, if_neg nofun, hreject, if_neg Bool.false_ne_true]
        rfl
  | enter =>
      rw [hplan] at hspec
      exact plan_open hspec.1 hspec.2
  | keep =>
      rw [hplan] at hspec
      obtain ⟨hadmits, hkind, _⟩ := hspec
      rw [tokenAfter_of_ne (hplan ▸ nofun), plan_leaf hadmits hkind, if_pos rfl]
      rfl

/-- The token that is left the first time is left the second time. -/
theorem Processor.tokenAfter_again (p : Processor (StateM σ)) (S : Snapshot)
    (verdict : String → Bool) (id : String) (known : Option String) :
    p.tokenAfter S verdict id (p.tokenAfter S verdict id known) =
      p.tokenAfter S verdict id known := by
  have hdrop := Plan.again_eq_drop (p.plan S verdict id known)
  rw [← p.plan_again S verdict id known] at hdrop
  exact if_congr hdrop rfl rfl

/-! ## A pass that nothing disturbs -/

/-- The call has come to the outcome that the store and the token known before lead to. -/
def Ruled (p : Processor (StateM σ)) (S : Snapshot) (verdict : String → Bool) : PassCall → Prop
  | .process id known (.ok o) => Planned p S verdict id known o
  | .retire id (.ok o) => o = .delete id "no longer reachable from seeds"
  | _ => False

theorem Ruled.expands (h : Ruled p S verdict c) : Expands p S c := by
  cases c with
  | process id known result =>
      cases result with
      | ok o => exact Planned.children h
      | error e => exact h
  | retire id result =>
      cases result with
      | ok o =>
          obtain rfl : o = .delete id "no longer reachable from seeds" := h
          rfl
      | error e => exact h
  | stop => exact h

theorem Ruled.proper (h : Ruled p S verdict c) : c.Proper := by
  cases c with
  | process id known result =>
      cases result with
      | ok o => exact Planned.own h
      | error e => trivial
  | retire id result =>
      cases result with
      | ok o => exact congrArg Outcome.id (h : o = .delete id "no longer reachable from seeds")
      | error e => trivial
  | stop => trivial

/-- The state of an observed pass after some calls: the store stands still, and unless something has
disturbed the pass, the calls have come to what the store leads to. -/
structure Regular (p : Processor (StateM σ)) (inv : σ → Prop) (S : Snapshot)
    (verdict : String → Bool) (calls : List PassCall) (s : σ × List Event) : Prop where
  still : inv s.1
  ruled : Faulty s ∨ ∀ c ∈ calls, Ruled p S verdict c

/-- A verdict is what the store leads to. -/
theorem Grounded.ruled {fault : Prop} (hstill : Still p inv S verdict)
    (h : Grounded p inv fault c) : fault ∨ Ruled p S verdict c := by
  cases c with
  | process id known result =>
      cases result with
      | ok o =>
          rcases h with hv | ⟨_, hfault⟩
          · exact Or.inr (planned_of_verdict hstill hv)
          · exact Or.inl hfault
      | error e => exact Or.inl h
  | retire id result =>
      cases result with
      | ok o => exact Or.inr h
      | error e => exact Or.inl h
  | stop => exact Or.inl h

/-- One more call. -/
theorem Regular.step (h : Regular p inv S verdict calls s) {told : Option Outcome}
    (hs : Noted inv s.2 told s') (hc : Faulty s' ∨ Ruled p S verdict c) :
    Regular p inv S verdict (calls ++ [c]) s' := by
  obtain ⟨hstill, hmore, _⟩ := hs
  refine ⟨hstill, ?_⟩
  rcases h.ruled with hfault | hruled
  · exact Or.inl (hfault.mono hmore)
  · exact hc.imp_right (fun hc => List.forall_mem_append.mpr
      ⟨hruled, List.forall_mem_singleton.mpr hc⟩)

theorem Regular.silent (h : Regular p inv S verdict calls s) (hs : Noted inv s.2 none s') :
    Regular p inv S verdict calls s' :=
  ⟨hs.1, h.ruled.imp_left (fun hfault => hfault.mono hs.2.1)⟩

/-- **Every call of an observed pass keeps to what the store leads to**, or leaves a mark, if that
is so of whatever a call can come to. -/
theorem regular_keeps (hkeeps : Conduct p (Keeping inv) (fun _ => True))
    (hground : ∀ fault c, Grounded p inv fault c → fault ∨ Ruled p S verdict c)
    (schedule : Schedule) (previous : VersionMap) :
    Keeps (p.observed.pass schedule) previous (Regular p inv S verdict) :=
  observed_keeps hkeeps schedule previous (fun _ _ hs => hs.still)
    (fun _ _ _ _ _ hs hnoted _ hc => hs.step hnoted (hground _ _ hc))
    (fun _ _ _ hs hnoted => hs.silent hnoted)

/-- The state in which a pass leaves everything. -/
def Round.final (p : Processor (StateM σ)) (seeds : List String) (r : Round σ)
    (before : Standing) : σ :=
  (((p.pass r.schedule).run r.horizon seeds before.versions).run r.start).2

/-- Undisturbed, every call comes to what the store leads to, if that is what calls can come to. -/
theorem Round.ruled_of (hkeeps : Conduct p (Keeping inv) (fun _ => True))
    (hground : ∀ fault c, Grounded p inv fault c → fault ∨ Ruled p S verdict c)
    (hstart : inv r.start) (hquiet : ∀ event ∈ r.events p seeds before, event.isFault = false) :
    inv (r.final p seeds before) ∧ ∀ c ∈ r.calls p seeds before, Ruled p S verdict c := by
  obtain ⟨_, hregular⟩ := run_traced (regular_keeps hkeeps hground r.schedule before.versions)
    r.horizon seeds (s := (r.start, [])) ⟨hstart, Or.inr (fun c hc => by cases hc)⟩
  -- traces and notes aside, it is the pass itself
  obtain ⟨_, hstate⟩ := (traced_follows (p.observed.pass r.schedule)).run r.horizon seeds
    before.versions ((r.start, []), [])
  obtain ⟨_, hfinal⟩ := (observed_follows p r.schedule).run r.horizon seeds before.versions
    (r.start, [])
  rw [hstate] at hregular
  have hinv := hregular.still
  rw [hfinal] at hinv
  refine ⟨hinv, ?_⟩
  rcases hregular.ruled with ⟨event, hevent, hfault⟩ | hruled
  · rw [hquiet event hevent] at hfault
    cases hfault
  · exact hruled

/-- Undisturbed, every call comes to what the store leads to, and the store still stands still. -/
theorem Round.ruled (hstill : Still p inv S verdict) (hstart : inv r.start)
    (hquiet : ∀ event ∈ r.events p seeds before, event.isFault = false) :
    inv (r.final p seeds before) ∧ ∀ c ∈ r.calls p seeds before, Ruled p S verdict c :=
  Round.ruled_of hstill.keeps (fun _ _ hc => hc.ruled hstill) hstart hquiet

/-- It succeeds, if its horizon counts as many levels as it finds entries. -/
theorem Round.succeeds (hruled : ∀ c ∈ r.calls p seeds before, Ruled p S verdict c)
    (hfinite : {id | p.Finds S seeds id}.Finite) (hlong : hfinite.toFinset.card ≤ r.horizon) :
    ∃ report, r.report? p seeds before = some report := by
  have hexpands : ∀ c ∈ r.calls p seeds before, Expands p S c := fun c hc => (hruled c hc).expands
  obtain ⟨hend, _⟩ := r.logged p seeds before
  unfold Round.report?
  cases hr : r.result p seeds before with
  | none =>
      rw [hr] at hend
      obtain ⟨ids, honce, hmany, hled⟩ := hend.led
      have hfew := length_le_card hfinite honce (fun id hid => (hled id hid).finds hexpands)
      omega
  | some result =>
      rw [hr] at hend
      obtain ⟨report, rfl⟩ := hend.succeeds hexpands
      exact ⟨report, rfl⟩

/-! ## The tokens that it leaves -/

theorem silent_of_ruled (hruled : ∀ c ∈ calls, Ruled p S verdict c) (id : String) (o : Outcome)
    (hc : PassCall.retire id (.ok o) ∈ calls) : o.token? = none := (hruled _ hc).expands

/-- What is visited has the token that it is left with. -/
theorem Ending.token_visited (hend : Ending previous seeds horizon calls (some (.ok report)))
    (hruled : ∀ c ∈ calls, Ruled p S verdict c) (h : id ∈ visited calls) :
    report.versions[id]? = p.tokenAfter S verdict id previous[id]? := by
  have hproper : ∀ c ∈ calls, c.Proper := fun c hc => (hruled c hc).proper
  have hnone := hend.no_deferrals (fun c hc => (hruled c hc).expands)
  obtain ⟨⟨_, result⟩, hv, rfl⟩ := List.mem_map.mp h
  obtain ⟨known, hc⟩ := mem_visits.mp hv
  obtain rfl := hend.known_eq hc
  cases result with
  | error e => exact (hruled _ hc).elim
  | ok o =>
      have hplanned : Planned p S verdict _ _ o := hruled _ hc
      have hreck := hend.reckoned (silent_of_ruled hruled)
      rcases hreck.token_of_outcome hend.once hproper hc with htoken | ⟨_, ⟨d, hd, _⟩, _⟩
      · exact htoken.trans hplanned.token_eq
      · rw [hnone] at hd
        cases hd

/-- What is not visited has none. -/
theorem Ending.token_unvisited (hend : Ending previous seeds horizon calls (some (.ok report)))
    (hruled : ∀ c ∈ calls, Ruled p S verdict c) (h : id ∉ visited calls) :
    report.versions[id]? = none := by
  have hnone := hend.no_deferrals (fun c hc => (hruled c hc).expands)
  refine (hend.reckoned (silent_of_ruled hruled)).token_gone (fun c hc => (hruled c hc).proper)
    (unsettled_of_unvisited h) ?_
  intro h0
  obtain ⟨d, hd, _⟩ := h0
  rw [hnone] at hd
  cases hd

/-- Both passes visit the same entries. -/
theorem Ending.visited_again {previous' : VersionMap}
    (hend : Ending previous seeds horizon calls (some (.ok report)))
    (hruled : ∀ c ∈ calls, Ruled p S verdict c)
    (hend' : Ending previous' seeds horizon' calls' (some (.ok report')))
    (hruled' : ∀ c ∈ calls', Ruled p S verdict c) : (visited calls').Perm (visited calls) := by
  refine (List.perm_ext_iff_of_nodup hend'.once hend.once).mpr (fun id => ?_)
  exact (hend'.visited_iff_finds (fun c hc => (hruled' c hc).expands)).trans
    (hend.visited_iff_finds (fun c hc => (hruled c hc).expands)).symm

/-- **The second pass leaves the tokens as they are.** -/
theorem Ending.tokens_again (hend : Ending previous seeds horizon calls (some (.ok report)))
    (hruled : ∀ c ∈ calls, Ruled p S verdict c)
    (hend' : Ending report.versions seeds horizon' calls' (some (.ok report')))
    (hruled' : ∀ c ∈ calls', Ruled p S verdict c) (id : String) :
    report'.versions[id]? = report.versions[id]? := by
  have hsame := (hend.visited_again hruled hend' hruled').mem_iff (a := id)
  by_cases h : id ∈ visited calls
  · rw [hend'.token_visited hruled' (hsame.mpr h), hend.token_visited hruled h,
      p.tokenAfter_again]
  · rw [hend'.token_unvisited hruled' (fun h' => h (hsame.mp h')), hend.token_unvisited hruled h]

/-- **It retires nothing**, since what has a token has been visited, and is visited again. -/
theorem Ending.retirees_again (hend : Ending previous seeds horizon calls (some (.ok report)))
    (hruled : ∀ c ∈ calls, Ruled p S verdict c)
    (hend' : Ending report.versions seeds horizon' calls' (some (.ok report')))
    (hruled' : ∀ c ∈ calls', Ruled p S verdict c) : retirees calls' = [] := by
  refine List.eq_nil_iff_forall_not_mem.mpr (fun id hid => ?_)
  have hsilent := silent_of_ruled hruled'
  have hunvisited := ((hend'.covered hsilent).apart id hid).1
  have htoken := Std.TreeMap.mem_iff_isSome_getElem?.mp (hend'.retiree_mem hsilent hid)
  have hvisited : id ∉ visited calls := fun h =>
    hunvisited ((hend.visited_again hruled hend' hruled').mem_iff.mpr h)
  rw [hend.token_unvisited hruled hvisited] at htoken
  cases htoken

/-! ## What it counts -/

/-- How many entries a report counts that a plan was made for. -/
def Report.counter (report : Report) : Plan → Nat
  | .take => report.ingested
  | .drop => report.deleted
  | .enter => report.skipped
  | .keep => report.unchanged

theorem count_counter (report : Report) (o : Outcome) (plan : Plan) :
    (report.count o).counter plan = report.counter plan + if o.plan == plan then 1 else 0 := by
  cases o with
  | ingest id token bytes => cases plan <;> rfl
  | delete id reason => cases plan <;> rfl
  | skip id reason token => cases reason <;> cases plan <;> rfl

theorem foldl_count_counter (plan : Plan) : ∀ (outcomes : List Outcome) (report : Report),
    (outcomes.foldl Report.count report).counter plan =
      report.counter plan + (outcomes.map Outcome.plan).count plan
  | [], _ => rfl
  | o :: outcomes, report => by
      rw [List.foldl_cons, foldl_count_counter plan outcomes, count_counter, List.map_cons,
        List.count_cons, Nat.add_assoc, Nat.add_comm (ite _ _ _)]

/-- Bytes are counted for what is handed over. -/
theorem foldl_count_bytes : ∀ (outcomes : List Outcome) (report : Report),
    (∀ o ∈ outcomes, o.plan ≠ .take) → (outcomes.foldl Report.count report).bytes = report.bytes
  | [], _, _ => rfl
  | o :: outcomes, report, h => by
      rw [List.foldl_cons,
        foldl_count_bytes outcomes _ (fun o' ho' => h o' (List.mem_cons_of_mem o ho'))]
      cases o with
      | ingest id token bytes => exact absurd rfl (h _ List.mem_cons_self)
      | delete id reason => rfl
      | skip id reason token => cases reason <;> rfl

/-- The plans for the entries that are visited. -/
def Processor.plans (p : Processor (StateM σ)) (S : Snapshot) (verdict : String → Bool)
    (previous : VersionMap) (ids : List String) : List Plan :=
  ids.map (fun id => p.plan S verdict id previous[id]?)

/-- A pass carries out the plans for what it visits, and deletes what it retires. -/
theorem plans_perm : ∀ {calls : List PassCall}, (∀ c ∈ calls, Ruled p S verdict c) →
    (∀ id known result, .process id known result ∈ calls → known = previous[id]?) →
      ((calls.filterMap PassCall.outcome?).map Outcome.plan).Perm
        (p.plans S verdict previous (visited calls) ++ (retirees calls).map (fun _ => .drop))
  | [], _, _ => .refl _
  | c :: calls, hruled, hknown => by
      have ih := plans_perm (fun c' hc' => hruled c' (List.mem_cons_of_mem c hc'))
        (fun id known result hc => hknown id known result (List.mem_cons_of_mem c hc))
      have hc := hruled c List.mem_cons_self
      cases c with
      | process id known result =>
          obtain rfl := hknown id known result List.mem_cons_self
          cases result with
          | ok o =>
              have hplan : o.plan = _ := Planned.plan hc
              change (o.plan :: _).Perm (_ :: _)
              rw [hplan]
              exact ih.cons _
          | error e => exact hc.elim
      | retire id result =>
          cases result with
          | ok o =>
              obtain rfl : o = .delete id "no longer reachable from seeds" := hc
              exact (ih.cons Plan.drop).trans List.perm_middle.symm
          | error e => exact hc.elim
      | stop => exact hc.elim

/-- Whether processing came to delete the entry. -/
def deletes : Except CrawlError Outcome → Bool
  | .ok (.delete _ _) => true
  | _ => false

/-- The entries that processing came to delete. -/
def deletions (calls : List PassCall) : List String :=
  ((visits calls).filter (fun v => deletes v.2)).map Prod.fst

theorem deletes_ok (o : Outcome) : deletes (.ok o) = (o.plan == .drop) := by
  cases o with
  | ingest id token bytes => rfl
  | delete id reason => rfl
  | skip id reason token => cases reason <;> rfl

theorem Ending.length_deletions (hend : Ending previous seeds horizon calls (some (.ok report)))
    (hruled : ∀ c ∈ calls, Ruled p S verdict c) :
    (deletions calls).length = (p.plans S verdict previous (visited calls)).count .drop := by
  have hdeletes : ∀ v ∈ visits calls,
      deletes v.2 = (p.plan S verdict v.1 previous[v.1]? == .drop) := by
    intro v hv
    obtain ⟨id, result⟩ := v
    obtain ⟨known, hc⟩ := mem_visits.mp hv
    obtain rfl := hend.known_eq hc
    cases result with
    | ok o => exact (deletes_ok o).trans (congrArg (· == Plan.drop) (Planned.plan (hruled _ hc)))
    | error e => exact (hruled _ hc).elim
  rw [deletions, List.length_map, ← List.countP_eq_length_filter, Processor.plans, visited,
    List.map_map, List.count, List.countP_map]
  exact List.countP_congr (fun v hv => iff_of_eq (congrArg (· = true) (hdeletes v hv)))

/-- What a report counts: the plans for the entries that are visited, and what is retired. -/
theorem Ending.counter_eq (hend : Ending previous seeds horizon calls (some (.ok report)))
    (hruled : ∀ c ∈ calls, Ruled p S verdict c)
    (hreport : report = calls.foldl (Report.add previous) .empty) (plan : Plan) :
    report.counter plan = (p.plans S verdict previous (visited calls)).count plan +
      ((retirees calls).map (fun _ => Plan.drop)).count plan := by
  have hcounts : (calls.foldl (Report.add previous) .empty).counts = _ :=
    foldl_add_counts calls .empty
  rw [← hreport] at hcounts
  have hperm := plans_perm hruled (fun id known result hc => hend.known_eq hc)
  calc report.counter plan = report.counts.counter plan := by cases plan <;> rfl
    _ = Report.empty.counts.counter plan +
          ((calls.filterMap PassCall.outcome?).map Outcome.plan).count plan := by
        rw [hcounts, foldl_count_counter]
    _ = ((calls.filterMap PassCall.outcome?).map Outcome.plan).count plan := by
        cases plan <;> exact Nat.zero_add _
    _ = _ := by rw [hperm.count_eq, List.count_append]

/-- What is retired is counted as deleted and nothing else. -/
theorem Ending.counter_visited (hend : Ending previous seeds horizon calls (some (.ok report)))
    (hruled : ∀ c ∈ calls, Ruled p S verdict c)
    (hreport : report = calls.foldl (Report.add previous) .empty) (plan : Plan)
    (hplan : plan ≠ .drop) :
    report.counter plan = (p.plans S verdict previous (visited calls)).count plan := by
  have hnone : ((retirees calls).map (fun _ => Plan.drop)).count plan = 0 := by
    refine List.count_eq_zero.mpr (fun hmem => ?_)
    obtain ⟨_, _, hdrop⟩ := List.mem_map.mp hmem
    exact hplan hdrop.symm
  rw [hend.counter_eq hruled hreport plan, hnone, Nat.add_zero]

/-- How often each plan is made the second time. -/
theorem count_again (plans : List Plan) :
    (plans.map Plan.again).count .take = 0 ∧
      (plans.map Plan.again).count .keep = plans.count .take + plans.count .keep ∧
      (plans.map Plan.again).count .drop = plans.count .drop ∧
      (plans.map Plan.again).count .enter = plans.count .enter := by
  induction plans with
  | nil => exact ⟨rfl, rfl, rfl, rfl⟩
  | cons plan plans ih =>
      obtain ⟨htake, hkeep, hdrop, henter⟩ := ih
      simp only [List.map_cons, List.count_cons, htake, hkeep, hdrop, henter]
      cases plan <;> simp [Plan.again] <;> omega

/-- The plans of the second pass are those of the first, each made again. -/
theorem Ending.plans_again (hend : Ending previous seeds horizon calls (some (.ok report)))
    (hruled : ∀ c ∈ calls, Ruled p S verdict c)
    (hend' : Ending report.versions seeds horizon' calls' (some (.ok report')))
    (hruled' : ∀ c ∈ calls', Ruled p S verdict c) :
    (p.plans S verdict report.versions (visited calls')).Perm
      ((p.plans S verdict previous (visited calls)).map Plan.again) := by
  refine ((hend.visited_again hruled hend' hruled').map _).trans ?_
  unfold Processor.plans
  rw [List.map_map]
  refine .of_eq (List.map_congr_left (fun id hid => ?_))
  rw [hend.token_visited hruled hid]
  exact p.plan_again S verdict id previous[id]?

/-- What the second pass counts is what the first one counted of the entries that it visited, with
everything that was handed over left alone. -/
theorem Ending.counter_again (hend : Ending previous seeds horizon calls (some (.ok report)))
    (hruled : ∀ c ∈ calls, Ruled p S verdict c)
    (hend' : Ending report.versions seeds horizon' calls' (some (.ok report')))
    (hruled' : ∀ c ∈ calls', Ruled p S verdict c)
    (hreport' : report' = calls'.foldl (Report.add report.versions) .empty) (plan : Plan) :
    report'.counter plan =
      ((p.plans S verdict previous (visited calls)).map Plan.again).count plan := by
  rw [hend'.counter_eq hruled' hreport' plan, hend.retirees_again hruled hend' hruled',
    (hend.plans_again hruled hend' hruled').count_eq]
  rfl

/-- **The second pass hands over nothing.** -/
theorem Ending.takes_nothing (hend : Ending previous seeds horizon calls (some (.ok report)))
    (hruled : ∀ c ∈ calls, Ruled p S verdict c)
    (hend' : Ending report.versions seeds horizon' calls' (some (.ok report')))
    (hruled' : ∀ c ∈ calls', Ruled p S verdict c) :
    ∀ o ∈ calls'.filterMap PassCall.outcome?, o.plan ≠ .take := by
  intro o ho htake
  have hperm := plans_perm hruled' (fun id known result hc => hend'.known_eq hc)
  have hmem := hperm.subset (List.mem_map_of_mem (f := Outcome.plan) ho)
  rw [hend.retirees_again hruled hend' hruled', List.map_nil, List.append_nil, htake] at hmem
  have hnone := (count_again (p.plans S verdict previous (visited calls))).1
  exact List.count_eq_zero.mp hnone ((hend.plans_again hruled hend' hruled').subset hmem)

/-! ## Two passes -/

/-- A report is what the calls of its pass add up to. -/
theorem Round.report_eq (hreport : r.report? p seeds before = some report) :
    report = (r.calls p seeds before).foldl (Report.add before.versions) .empty := by
  refine run_traced_report (p.observed.pass r.schedule) r.horizon seeds before.versions
    (r.start, []) report ?_
  -- traces and notes aside, it is the pass itself
  rw [((traced_follows (p.observed.pass r.schedule)).run r.horizon seeds before.versions
    ((r.start, []), [])).1, ((observed_follows p r.schedule).run r.horizon seeds before.versions
    (r.start, [])).1]
  exact Round.report?_eq_some hreport

/-- Whatever the receiver took in is the outcome of a call. -/
theorem ingest_of_event {request : Delivery} {content : Content} {bytes : Nat}
    {events : List Event} (hlines : ledger events = calls.flatMap PassCall.lines)
    (h : .ingested request content bytes ∈ events) :
    ∃ o ∈ calls.filterMap PassCall.outcome?, o.plan = .take := by
  have hline : (request.id, some request.token) ∈ ledger events :=
    List.mem_filterMap.mpr ⟨_, h, rfl⟩
  rw [hlines] at hline
  obtain ⟨c, hc, hmem⟩ := List.mem_flatMap.mp hline
  have htakes : ∀ o : Outcome, (request.id, some request.token) ∈ o.lines → o.plan = .take := by
    intro o ho
    cases o with
    | ingest id token bytes => rfl
    | delete id reason => cases List.mem_singleton.mp ho
    | skip id reason token => cases ho
  cases c with
  | process id known result =>
      cases result with
      | ok o => exact ⟨o, List.mem_filterMap.mpr ⟨_, hc, rfl⟩, htakes o hmem⟩
      | error e => cases hmem
  | retire id result =>
      cases result with
      | ok o => exact ⟨o, List.mem_filterMap.mpr ⟨_, hc, rfl⟩, htakes o hmem⟩
      | error e => cases hmem
  | stop => cases hmem

/-- What a pass comes to that does nothing but find everything as the pass before has left it. -/
structure Repeats (p : Processor (StateM σ)) (seeds : List String) (first second : Round σ)
    (before : Standing) (report report' : Report) : Prop where
  /-- The tokens stay as they are. -/
  versions : report'.versions.Equiv report.versions
  /-- Nothing is handed over. -/
  ingested : report'.ingested = 0
  bytes : report'.bytes = 0
  untouched : ∀ request content bytes,
    .ingested request content bytes ∉ second.events p seeds (first.after p seeds before)
  /-- What was handed over is unchanged, and so is what was unchanged before. -/
  unchanged : report'.unchanged = report.ingested + report.unchanged
  /-- Every container is opened again. -/
  skipped : report'.skipped = report.skipped
  /-- Nothing is retired. -/
  settled : retirees (second.calls p seeds (first.after p seeds before)) = []
  /-- What processing came to delete is deleted again. -/
  deleted : report'.deleted = (deletions (first.calls p seeds before)).length

/-- **Crawling twice what stands still comes to nothing new.** Let the store stand still, with
finitely many entries that a pass finds, and let nothing disturb two passes, the second of which
starts from the tokens that the first has left. Then both passes succeed. The second one hands over
and retires nothing and leaves the tokens as they are. It counts as unchanged what the first one has
handed over or found unchanged, opens as many containers, and deletes again what processing came to
delete in the first. -/
theorem pass_repeats (p : Processor (StateM σ)) (inv : σ → Prop) (S : Snapshot)
    (verdict : String → Bool) (hstill : Still p inv S verdict) (seeds : List String)
    (hfinite : {id | p.Finds S seeds id}.Finite) (before : Standing) (first second : Round σ)
    (hlong : hfinite.toFinset.card ≤ first.horizon) (hstart : inv first.start)
    (hquiet : ∀ event ∈ first.events p seeds before, event.isFault = false)
    (hlong' : hfinite.toFinset.card ≤ second.horizon) (hstart' : inv second.start)
    (hquiet' : ∀ event ∈ second.events p seeds (first.after p seeds before),
      event.isFault = false) :
    inv (first.final p seeds before) ∧ ∃ report report',
      first.report? p seeds before = some report ∧
      second.report? p seeds (first.after p seeds before) = some report' ∧
      Repeats p seeds first second before report report' := by
  obtain ⟨hfinal, hruled⟩ := Round.ruled hstill hstart hquiet
  obtain ⟨_, hruled'⟩ := Round.ruled hstill hstart' hquiet'
  obtain ⟨report, hreport⟩ := Round.succeeds hruled hfinite hlong
  obtain ⟨report', hreport'⟩ := Round.succeeds hruled' hfinite hlong'
  refine ⟨hfinal, report, report', hreport, hreport', ?_⟩
  obtain ⟨hend, _⟩ := first.logged p seeds before
  obtain ⟨hend', hlines', _⟩ := second.logged p seeds (first.after p seeds before)
  have heq := Round.report_eq hreport
  have heq' := Round.report_eq hreport'
  rw [Round.report?_eq_some hreport] at hend
  rw [Round.report?_eq_some hreport', after_versions hreport] at hend'
  rw [after_versions hreport] at heq'
  -- the plans of the first pass account for both reports
  obtain ⟨htake, hkeep, hdrop, henter⟩ :=
    count_again (p.plans S verdict before.versions (visited (first.calls p seeds before)))
  have hcount := hend.counter_visited hruled heq
  have hcount' := hend.counter_again hruled hend' hruled' heq'
  have hnothing := hend.takes_nothing hruled hend' hruled'
  exact
    { versions := .of_forall_constGet?_eq (hend.tokens_again hruled hend' hruled')
      ingested := (hcount' .take).trans htake
      bytes := by
        have hcounts : (List.foldl (Report.add report.versions) .empty
          (second.calls p seeds (first.after p seeds before))).counts = _ := foldl_add_counts _ _
        rw [← heq'] at hcounts
        exact (congrArg Report.bytes hcounts).trans (foldl_count_bytes _ _ hnothing)
      untouched := by
        intro request content bytes hevent
        obtain ⟨o, ho, htake⟩ := ingest_of_event hlines' hevent
        exact hnothing o ho htake
      unchanged := by
        calc report'.unchanged = _ := (hcount' .keep).trans hkeep
          _ = report.counter .take + report.counter .keep := by
            rw [hcount .take nofun, hcount .keep nofun]
          _ = report.ingested + report.unchanged := rfl
      skipped := (hcount' .enter).trans (henter.trans (hcount .enter nofun).symm)
      settled := hend.retirees_again hruled hend' hruled'
      deleted := ((hcount' .drop).trans hdrop).trans (hend.length_deletions hruled).symm }

/-- An old token of a leaf, and one of an entry that is gone. -/
def staleStanding : Standing := ⟨.ofList [("/a", "t"), ("/old", "t")], fun _ => none⟩

theorem thinned_finds (h : takingCrawl.Finds thinnedRound.start.snapshot folderSeeds id) :
    id ∈ ["/", "/a", "/b"] := by
  cases h with
  | seed hseed =>
      rcases List.mem_pair.mp hseed with rfl | rfl
      · decide
      · decide
  | @child parent id hparent hadmits hkind hid =>
      have hid : id ∈ if parent = "/" then ["/a"] else [] := hid
      split at hid
      · obtain rfl := List.mem_singleton.mp hid
        decide
      · cases hid

/-- The first pass takes in the leaf again, deletes a seed that is not there, and retires what is
gone. The second one deletes the seed again. -/
theorem pass_repeats_thinned :
    ∃ report report', thinnedRound.report? takingCrawl folderSeeds staleStanding = some report ∧
      Repeats takingCrawl folderSeeds thinnedRound thinnedRound staleStanding report report' ∧
      report.ingested = 1 ∧ report.deleted = 2 ∧ report'.deleted = 1 := by
  have hfinite : {id | takingCrawl.Finds thinnedRound.start.snapshot folderSeeds id}.Finite :=
    (List.finite_toSet ["/", "/a", "/b"]).subset (fun id hid => thinned_finds hid)
  have hfew : hfinite.toFinset.card ≤ 3 := by
    have hsubset : hfinite.toFinset ⊆ ["/", "/a", "/b"].toFinset := fun id hid =>
      List.mem_toFinset.mpr (thinned_finds (hfinite.mem_toFinset.mp hid))
    exact (Finset.card_le_card hsubset).trans (List.toFinset_card_le _)
  obtain ⟨_, report, report', hreport, hreport', hrepeats⟩ := pass_repeats takingCrawl
    (fun s => s.snapshot = thinnedRound.start.snapshot) thinnedRound.start.snapshot _
    (shelf_mirrors.still _) folderSeeds hfinite staleStanding thinnedRound thinnedRound
    hfew rfl (by decide +kernel) hfew rfl (by decide +kernel)
  have hcounts : (thinnedRound.report? takingCrawl folderSeeds staleStanding).map
      (fun report => (report.ingested, report.deleted)) = some (1, 2) := by decide +kernel
  have hcounts' : (thinnedRound.report? takingCrawl folderSeeds
      (thinnedRound.after takingCrawl folderSeeds staleStanding)).map Report.deleted = some 1 := by
    decide +kernel
  rw [hreport] at hcounts
  rw [hreport'] at hcounts'
  have hcounts := Option.some.inj hcounts
  exact ⟨report, report', hreport, hrepeats, congrArg Prod.fst hcounts, congrArg Prod.snd hcounts,
    Option.some.inj hcounts'⟩

end Harvest
