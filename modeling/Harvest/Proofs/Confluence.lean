import Harvest.Proofs.Fate
import Harvest.Proofs.Likeness
import Harvest.Proofs.Tally

/-!
# The order within a level

A pass may take the entries of a level in any order. Where entries have nothing to do with each
other (`Separate`), each of them comes to what it would have come to by itself, whenever its turn is
(`Apart`). What the pass is led to then follows from these answers alone, and so does its report.

There is one exception. An entry that has to wait keeps what was known below it from being looked
at, unless the pass has been led there before. Where this happens to nothing that the pass is led
to, all schedules make the same report (`schedules_agree`). Otherwise the schedule decides which
entries are looked at and which tokens they have in the end (`schedules_differ`).
-/

namespace Harvest

variable {σ ν : Type} {p : Processor (StateM σ)} {view : σ → String → ν} {previous : VersionMap}
  {seeds : List String} {horizon : Nat} {calls : List PassCall} {c : PassCall} {report : Report}
  {id other : String} {known : Option String} {o : Outcome} {s s' t : σ}

/-! ## Entries that have nothing to do with each other -/

/-- What the processor is told about an entry depends on nothing but what `view` shows of the entry,
apart from the time, and what it does about an entry changes nothing that `view` shows of others. -/
structure Separate (p : Processor (StateM σ)) (view : σ → String → ν) : Prop where
  own : ∀ id, ∃ R : Copies → σ → σ → Prop, Attends (fun _ _ => True) R id p p ∧
    ∀ t s, R none t s ↔ view t id = view s id
  aside : ∀ id other, other ≠ id → ∀ shown, ∃ R : Copies → σ → σ → Prop, Attends Eq R id p p ∧
    ∀ t s, R none t s ↔ t = s ∧ view s other = shown

/-- What a result says apart from the time. -/
def timeless : Except CrawlError Outcome → Except CrawlError Outcome
  | .error (.transient operation message _) => .error (.transient operation message (.after 0))
  | result => result

theorem timeless_eq_of_alike {T : Moment → Moment → Prop} {r' r : Except CrawlError Outcome}
    (h : Alike (Timed T id) r' r) : timeless r' = timeless r := by
  cases r' with
  | ok o' =>
      cases r with
      | ok o => exact congrArg (fun o => timeless (.ok o)) h
      | error e => exact h.elim
  | error e' =>
      cases r with
      | ok o => exact h.elim
      | error e =>
          cases h with
          | same hblame => rfl
          | transient hT => rfl

theorem timeless_eq_ok {r : Except CrawlError Outcome} : timeless r = .ok o ↔ r = .ok o := by
  unfold timeless
  split
  · exact iff_of_false (fun h => by cases h) (fun h => by cases h)
  · rfl

namespace Separate

variable (h : Separate p view)
include h

/-- An entry comes to the same as long as it looks the same. -/
theorem process_own (known : Option String) (hview : view t id = view s id) :
    timeless ((p.process id known).run t).1 = timeless ((p.process id known).run s).1 := by
  obtain ⟨R, hattends, hR⟩ := h.own id
  exact timeless_eq_of_alike (hattends.process.run t s ((hR t s).mpr hview)).1

/-- Processing an entry leaves the others as they look. -/
theorem process_aside (known : Option String) (hne : other ≠ id) (s : σ) :
    view ((p.process id known).run s).2 other = view s other := by
  obtain ⟨R, hattends, hR⟩ := h.aside id other hne (view s other)
  exact ((hR _ _).mp (hattends.process.run s s ((hR s s).mpr ⟨rfl, rfl⟩)).2).2

theorem retire_aside (hne : other ≠ id) (s : σ) :
    view ((p.retire id).run s).2 other = view s other := by
  obtain ⟨R, hattends, hR⟩ := h.aside id other hne (view s other)
  exact ((hR _ _).mp (hattends.retire.run s s ((hR s s).mpr ⟨rfl, rfl⟩)).2).2

/-- What a pass does between two entries changes nothing. -/
theorem isCancelled_aside (other : String) (s : σ) :
    view (p.monitor.isCancelled.run s).2 other = view s other := by
  obtain ⟨id, hne⟩ := exists_ne other
  obtain ⟨R, hattends, hR⟩ := h.aside id other hne.symm (view s other)
  exact ((hR _ _).mp ((hattends.isCancelled none).run s s ((hR s s).mpr ⟨rfl, rfl⟩)).2).2

theorem warn_aside (w : Warning) (other : String) (s : σ) :
    view ((p.monitor.warn w).run s).2 other = view s other := by
  obtain ⟨id, hne⟩ := exists_ne other
  obtain ⟨R, hattends, hR⟩ := h.aside id other hne.symm (view s other)
  exact ((hR _ _).mp ((hattends.warn none w).run s s ((hR s s).mpr ⟨rfl, rfl⟩)).2).2

end Separate

/-! ## Each entry by itself -/

/-- What an entry would come to if it were the first one to be processed. -/
def Processor.answer (p : Processor (StateM σ)) (s : σ) (id : String) (known : Option String) :
    Except CrawlError Outcome := timeless ((p.process id known).run s).1

/-- After some calls, entries that none of them was about look as they did at the start, and the
others have come to what they would have come to then. -/
structure Apart (p : Processor (StateM σ)) (view : σ → String → ν) (s : σ) (calls : List PassCall)
    (t : σ) : Prop where
  untouched : ∀ id, id ∉ calls.filterMap PassCall.id? → view t id = view s id
  answered : ∀ id known result, .process id known result ∈ calls →
    timeless result = p.answer s id known

/-- One more call. -/
theorem Apart.step {t' : σ} (h : Apart p view s calls t)
    (haside : ∀ other, c.id? ≠ some other → view t' other = view t other)
    (hanswer : ∀ id known result, c = .process id known result →
      timeless result = p.answer s id known) : Apart p view s (calls ++ [c]) t' := by
  constructor
  · intro other hother
    rw [List.filterMap_append, List.mem_append, not_or] at hother
    obtain ⟨hbefore, hlast⟩ := hother
    have hother : c.id? ≠ some other := fun hid =>
      hlast (List.mem_filterMap.mpr ⟨c, List.mem_singleton_self c, hid⟩)
    rw [haside other hother]
    exact h.untouched other hbefore
  · intro id known result hc
    rcases List.mem_append.mp hc with hold | hnew
    · exact h.answered id known result hold
    · exact hanswer id known result (List.mem_singleton.mp hnew).symm

/-- If no entry has two calls, the entry of the last call is a new one. -/
theorem nodup_of_snoc (hc : c.id? = some id) (h : ((calls ++ [c]).filterMap PassCall.id?).Nodup) :
    (calls.filterMap PassCall.id?).Nodup ∧ id ∉ calls.filterMap PassCall.id? := by
  rw [List.filterMap_append, List.filterMap_cons_some hc, List.nodup_append] at h
  obtain ⟨hbefore, _, hapart⟩ := h
  exact ⟨hbefore, fun hid => hapart id hid id List.mem_cons_self rfl⟩

/-- **Every entry comes to what it would have come to by itself**, as long as none has its turn
twice. -/
theorem apart_keeps (h : Separate p view) (schedule : Schedule) (previous : VersionMap) (s : σ) :
    Keeps (p.pass schedule) previous
      (fun calls t => (calls.filterMap PassCall.id?).Nodup → Apart p view s calls t) where
  process := by
    refine fun calls id => ⟨fun t ht honce => ?_⟩
    obtain ⟨hbefore, hnew⟩ := nodup_of_snoc rfl honce
    have hapart := ht hbefore
    refine hapart.step ?_ ?_
    · exact fun other hne => h.process_aside _ (fun heq => hne (congrArg some heq.symm)) t
    · intro id' known' result heq
      cases heq
      exact h.process_own _ (hapart.untouched id hnew)
  retire := by
    refine fun calls id => ⟨fun t ht honce => ?_⟩
    have hapart := ht (nodup_of_snoc rfl honce).1
    refine hapart.step ?_ (fun _ _ _ heq => by cases heq)
    exact fun other hne => h.retire_aside (fun heq => hne (congrArg some heq.symm)) t
  isCancelled := by
    refine fun calls => ⟨fun t ht => ?_⟩
    split
    · intro honce
      rw [List.filterMap_append] at honce
      have hapart := ht (List.nodup_append.mp honce).1
      exact hapart.step (fun other _ => h.isCancelled_aside other t) (fun _ _ _ heq => by cases heq)
    · intro honce
      have hapart := ht honce
      exact ⟨fun id hid => (h.isCancelled_aside id t).trans (hapart.untouched id hid),
        hapart.answered⟩
  warn := by
    refine fun calls w => ⟨fun t ht honce => ?_⟩
    have hapart := ht honce
    exact ⟨fun id hid => (h.warn_aside w id t).trans (hapart.untouched id hid), hapart.answered⟩

/-! ## What answers lead to -/

variable {answer : String → Except CrawlError Outcome} {done done' : List Visit} {v : Visit}
  {deferred deferred' : List Deferral}

/-- The visits of a pass that succeeds over entries with these answers. -/
structure Explored (previous : VersionMap) (seeds : List String)
    (answer : String → Except CrawlError Outcome) (done : List Visit) : Prop where
  once : (done.map Prod.fst).Nodup
  led : ∀ v ∈ done, Led seeds done v.1
  /-- Nothing that the pass was led to is missed but what is kept for a later one. -/
  closed : ∀ id, Led seeds done id →
    id ∈ done.map Prod.fst ∨ (id ∈ previous ∧ Sheltered (done.filterMap deferral?) id)
  answered : ∀ v ∈ done, timeless v.2 = answer v.1

/-- The pass is led to nothing that it has to keep for a later one. -/
def Clear (previous : VersionMap) (seeds : List String) (done : List Visit) : Prop :=
  ∀ id ∈ previous, Led seeds done id → ¬Sheltered (done.filterMap deferral?) id

/-- Whether an entry is sheltered is a matter of the identifiers that have to wait. -/
theorem Sheltered.of_ids (h : Sheltered deferred' id)
    (hids : ∀ d ∈ deferred', ∃ d' ∈ deferred, d'.id = d.id) : Sheltered deferred id := by
  obtain ⟨d, hd, hbelow⟩ := h
  obtain ⟨d', hd', hid⟩ := hids d hd
  exact ⟨d', hd', hid ▸ hbelow⟩

theorem Awaited.of_ids (h : Awaited deferred' id)
    (hids : ∀ d ∈ deferred', ∃ d' ∈ deferred, d'.id = d.id) : Awaited deferred id := by
  obtain ⟨d, hd, hcase⟩ := h
  obtain ⟨d', hd', hid⟩ := hids d hd
  exact ⟨d', hd', hid ▸ hcase⟩

/-- What is said of an entry that has to wait, apart from the time. -/
def Deferral.notice (d : Deferral) : String × String := (d.id, d.message)

/-- A visit apart from the time. -/
def Visit.bare (v : Visit) : Visit := (v.1, timeless v.2)

/-- Whether an entry has to wait is not a matter of the time. -/
theorem deferral?_bare (v : Visit) :
    (deferral? v.bare).map Deferral.notice = (deferral? v).map Deferral.notice := by
  obtain ⟨id, result⟩ := v
  cases result with
  | ok o => rfl
  | error e => cases e <;> rfl

theorem mem_bare (done : List Visit) :
    ((id, .ok o) : Visit) ∈ done.map Visit.bare ↔ ((id, .ok o) : Visit) ∈ done := by
  rw [List.mem_map]
  constructor
  · intro h0
    obtain ⟨⟨id', result⟩, hv, hbare⟩ := h0
    obtain ⟨rfl, hresult⟩ := Prod.mk.inj hbare
    obtain rfl := timeless_eq_ok.mp hresult
    exact hv
  · exact fun hv => ⟨_, hv, rfl⟩

namespace Explored

theorem bare_eq (h : Explored previous seeds answer done) :
    done.map Visit.bare = (done.map Prod.fst).map (fun id => (id, answer id)) := by
  rw [List.map_map]
  exact List.map_congr_left (fun v hv => Prod.ext rfl (h.answered v hv))

/-- Every visited entry has its answer. -/
theorem mem_bare_of_visited (h : Explored previous seeds answer done)
    (hid : id ∈ done.map Prod.fst) : (id, answer id) ∈ done.map Visit.bare := by
  rw [h.bare_eq]
  exact List.mem_map_of_mem hid

theorem found (h : Explored previous seeds answer done) (hclear : Clear previous seeds done)
    (hled : Led seeds done id) : id ∈ done.map Prod.fst := by
  rcases h.closed id hled with hvisited | ⟨hknown, hsheltered⟩
  · exact hvisited
  · exact absurd hsheltered (hclear id hknown hled)

variable (h : Explored previous seeds answer done) (hclear : Clear previous seeds done)
  (h' : Explored previous seeds answer done')
include h hclear h'

/-- A clear pass is led wherever any other pass is led. -/
theorem led_of (hled : Led seeds done' id) : Led seeds done id := by
  induction hled with
  | seed hseed => exact .seed hseed
  | @child id v o hv _ ho hid ih =>
      -- the container has come to the same in the clear pass
      have hanswer : answer v.1 = .ok o := by rw [← h'.answered v hv, ho]; rfl
      have hmem := h.mem_bare_of_visited (h.found hclear ih)
      rw [hanswer, mem_bare] at hmem
      exact .child hmem ih rfl hid

/-- What has to wait in any other pass has to wait in a clear one. -/
theorem waits_of :
    ∀ d ∈ done'.filterMap deferral?, ∃ d' ∈ done.filterMap deferral?, d'.id = d.id := by
  intro d hd
  obtain ⟨v, hv, hvd⟩ := List.mem_filterMap.mp hd
  have hvisited := h.found hclear (h.led_of hclear h' (h'.led v hv))
  obtain ⟨w, hw, hbare⟩ := List.mem_map.mp (h.mem_bare_of_visited hvisited)
  have hsame : w.bare = v.bare := by
    rw [hbare, ← h'.answered v hv]
    rfl
  have hdefer := deferral?_bare w
  rw [hsame, deferral?_bare, hvd] at hdefer
  obtain ⟨d', hd', hnotice⟩ := Option.map_eq_some_iff.mp hdefer.symm
  exact ⟨d', List.mem_filterMap.mpr ⟨w, hw, hd'⟩, (Prod.mk.inj hnotice).1⟩

/-- If one pass is clear, so is any other one. -/
theorem clear_of : Clear previous seeds done' :=
  fun id hknown hled hsheltered => hclear id hknown (h.led_of hclear h' hled)
    (hsheltered.of_ids (h.waits_of hclear h'))

/-- Clear passes visit the same entries. -/
theorem visited_perm : (done'.map Prod.fst).Perm (done.map Prod.fst) := by
  have hclear' := h.clear_of hclear h'
  rw [List.perm_ext_iff_of_nodup h'.once h.once]
  refine fun id => ⟨fun hid => ?_, fun hid => ?_⟩
  · obtain ⟨v, hv, rfl⟩ := List.mem_map.mp hid
    exact h.found hclear (h.led_of hclear h' (h'.led v hv))
  · obtain ⟨v, hv, rfl⟩ := List.mem_map.mp hid
    exact h'.found hclear' (h'.led_of hclear' h (h.led v hv))

/-- **Clear passes make the same visits**, in some order and apart from the time. -/
theorem bare_perm : (done'.map Visit.bare).Perm (done.map Visit.bare) := by
  rw [h.bare_eq, h'.bare_eq]
  exact (h.visited_perm hclear h').map _

end Explored

/-! ## What the reports say -/

/-- The outcomes of a pass that makes these visits and retires these entries. -/
def outcomesOf (done : List Visit) (retired : List String) : List Outcome :=
  done.filterMap (fun v => v.2.toOption) ++
    retired.map (fun id => .delete id "no longer reachable from seeds")

theorem timeless_toOption (r : Except CrawlError Outcome) : (timeless r).toOption = r.toOption := by
  unfold timeless
  split <;> rfl

theorem outcomesOf_bare (done : List Visit) (retired : List String) :
    outcomesOf (done.map Visit.bare) retired = outcomesOf done retired := by
  unfold outcomesOf
  rw [List.filterMap_map]
  exact congrArg (· ++ _) (List.filterMap_congr (fun v _ => timeless_toOption v.2))

/-- What a pass that succeeds retires: what was known before, and was neither visited nor kept. -/
theorem Ending.mem_retirees_iff (hend : Ending previous seeds horizon calls (some (.ok report)))
    (hsilent : ∀ id o, PassCall.retire id (.ok o) ∈ calls → o.token? = none) :
    id ∈ retirees calls ↔
      id ∈ previous ∧ id ∉ visited calls ∧ ¬Sheltered report.deferred id := by
  obtain ⟨progress, hseen, _, horphans, hdeferred, _⟩ := hend.account hsilent
  rw [horphans, mem_orphans, hseen.seen, List.append_nil, hdeferred, not_or]
  constructor
  · intro h0
    obtain ⟨hknown, hunvisited, hfree⟩ := h0
    exact ⟨hknown, hunvisited, fun h => hfree ⟨hknown, h⟩⟩
  · intro h0
    obtain ⟨hknown, hunvisited, hfree⟩ := h0
    exact ⟨hknown, hunvisited, fun h => hfree h.2⟩

/-- The outcomes of a pass that succeeds are those of its visits, and a deletion of whatever it
retires. -/
theorem Ending.outcomes {inv : σ → Prop}
    (hend : Ending previous seeds horizon calls (some (.ok report)))
    (hsound : ∀ c ∈ calls, Sound p inv c) :
    calls.filterMap PassCall.outcome? = outcomesOf (visits calls) (retirees calls) := by
  cases hend with
  | @finished done retired progress outcomes hseen hrem horphans houtcomes =>
      have hvisits : (done.map (processed previous)).filterMap PassCall.outcome? =
          done.filterMap (fun v => v.2.toOption) := by
        rw [List.filterMap_map]
        refine List.filterMap_congr (fun v _ => ?_)
        obtain ⟨id, result⟩ := v
        cases result <;> rfl
      have hretired : (retired.map retirement).filterMap PassCall.outcome? =
          (retired.map Prod.fst).map (fun id => .delete id "no longer reachable from seeds") := by
        rw [List.filterMap_map, List.map_map, ← List.filterMap_eq_map]
        refine List.filterMap_congr (fun v hv => ?_)
        obtain ⟨id, result⟩ := v
        have hc : retirement (id, result) ∈ passCalls previous done retired :=
          List.mem_append_right _ (List.mem_map_of_mem hv)
        have hresult : result ∈ outcomes.map Except.ok := houtcomes ▸ List.mem_map_of_mem hv
        obtain ⟨o, _, rfl⟩ := List.mem_map.mp hresult
        exact congrArg some (hsound _ hc o rfl)
      rw [visits_passCalls, retirees_passCalls, passCalls, List.filterMap_append, hvisits, hretired,
        outcomesOf]

/-- Two reports that say the same, apart from the time and the order of what they list. -/
structure Report.Matches (r' r : Report) : Prop where
  ingested : r'.ingested = r.ingested
  deleted : r'.deleted = r.deleted
  skipped : r'.skipped = r.skipped
  unchanged : r'.unchanged = r.unchanged
  bytes : r'.bytes = r.bytes
  deferred : (r'.deferred.map Deferral.notice).Perm (r.deferred.map Deferral.notice)
  versions : r'.versions.Equiv r.versions

/-- A pass that has succeeded over entries with these answers, and how its report follows from its
calls. -/
structure Concluded (previous : VersionMap) (seeds : List String)
    (answer : String → Except CrawlError Outcome) (calls : List PassCall) (report : Report) :
    Prop where
  explored : Explored previous seeds answer (visits calls)
  proper : ∀ c ∈ calls, c.Proper
  deferred : report.deferred = (visits calls).filterMap deferral?
  retired : ∀ id, id ∈ retirees calls ↔
    id ∈ previous ∧ id ∉ visited calls ∧ ¬Sheltered report.deferred id
  retiredOnce : (retirees calls).Nodup
  counts : report.counts =
    (outcomesOf (visits calls) (retirees calls)).foldl Report.count .empty
  reckoned : Reckoned previous calls report

/-- How a pass over separate entries concludes. -/
theorem run_concluded (h : Separate p view) (schedule : Schedule) (horizon : Nat)
    (seeds : List String) (previous : VersionMap) (s : σ) (report : Report) :
    let r := ((p.pass schedule).traced.run horizon seeds previous).run (s, [])
    r.1 = some (.ok report) →
      Concluded previous seeds (fun id => p.answer s id previous[id]?) r.2.2 report := by
  intro r hreport
  obtain ⟨hend, hsound⟩ := run_traced_ending (pass_minds (conduct_trivial p) schedule previous)
    horizon seeds (s := s) trivial
  have hstart : ((([] : List PassCall).filterMap PassCall.id?).Nodup → Apart p view s [] s) :=
    fun _ => ⟨fun _ _ => rfl, fun _ _ _ hc => by cases hc⟩
  obtain ⟨_, hapart⟩ := run_traced (apart_keeps h schedule previous s) horizon seeds hstart
  have hadds := run_traced_report (p.pass schedule) horizon seeds previous s report hreport
  rw [hreport] at hend
  have hsilent := silent_of_sound hsound
  obtain ⟨progress, hseen, _, _, hdeferred, _⟩ := hend.account hsilent
  refine ⟨⟨hend.once, ?_, ?_, ?_⟩, fun c hc => (hsound c hc).proper, ?_, ?_, ?_, ?_,
    hend.reckoned hsilent⟩
  · exact fun v hv => hseen.led v.1 (List.mem_append_left _ (List.mem_map_of_mem hv))
  · intro id hled
    have hcase := (hseen.seen id).mp (hseen.closed id hled)
    rw [List.append_nil, hseen.deferred] at hcase
    exact hcase
  · intro v hv
    obtain ⟨known, hc⟩ := mem_visits.mp hv
    rw [(hapart hend.ids_nodup).answered v.1 known v.2 hc, hend.known_eq hc]
  · rw [hdeferred, hseen.deferred]
  · exact fun id => hend.mem_retirees_iff hsilent
  · exact (hend.covered hsilent).once
  · rw [hadds, foldl_add_counts, hend.outcomes hsound]
    rfl

namespace Concluded

variable {calls' : List PassCall} {report' : Report}

theorem clear_iff (h : Concluded previous seeds answer calls report) :
    Clear previous seeds (visits calls) ↔
      ∀ id ∈ previous, Led seeds (visits calls) id → ¬Sheltered report.deferred id := by
  rw [h.deferred]
  rfl

/-- In a clear pass an entry with an outcome has its token. -/
theorem token_of_outcome (h : Concluded previous seeds answer calls report)
    (hclear : Clear previous seeds (visits calls)) (ho : ((id, .ok o) : Visit) ∈ visits calls) :
    report.versions[id]? = o.token? := by
  obtain ⟨known, hc⟩ := mem_visits.mp ho
  rcases h.reckoned.token_of_outcome h.explored.once h.proper hc with htoken | ⟨hknown, hs, _⟩
  · exact htoken
  · exact absurd hs (h.clear_iff.mp hclear id hknown (h.explored.led _ ho))

variable (h : Concluded previous seeds answer calls report)
  (hclear : Clear previous seeds (visits calls))
  (h' : Concluded previous seeds answer calls' report')
include h hclear h'

theorem deferred_perm :
    (report'.deferred.map Deferral.notice).Perm (report.deferred.map Deferral.notice) := by
  have hbare : ∀ done : List Visit, (done.filterMap deferral?).map Deferral.notice =
      (done.map Visit.bare).filterMap (fun v => (deferral? v).map Deferral.notice) := by
    intro done
    rw [List.map_filterMap, List.filterMap_map]
    exact List.filterMap_congr (fun v _ => (deferral?_bare v).symm)
  rw [h.deferred, h'.deferred, hbare, hbare]
  exact (h.explored.bare_perm hclear h'.explored).filterMap _

theorem waits_of : ∀ d ∈ report'.deferred, ∃ d' ∈ report.deferred, d'.id = d.id := by
  rw [h.deferred, h'.deferred]
  exact h.explored.waits_of hclear h'.explored

theorem retirees_perm : (retirees calls').Perm (retirees calls) := by
  have hclear' := h.explored.clear_of hclear h'.explored
  rw [List.perm_ext_iff_of_nodup h'.retiredOnce h.retiredOnce]
  intro id
  have hvisited : id ∈ visited calls' ↔ id ∈ visited calls :=
    (h.explored.visited_perm hclear h'.explored).mem_iff
  have hsheltered : Sheltered report'.deferred id ↔ Sheltered report.deferred id :=
    ⟨fun hs => hs.of_ids (h.waits_of hclear h'), fun hs => hs.of_ids (h'.waits_of hclear' h)⟩
  rw [h'.retired, h.retired, hvisited, hsheltered]

/-- Clear passes count the same outcomes. -/
theorem counts_eq : report'.counts = report.counts := by
  have hvisits := (h.explored.bare_perm hclear h'.explored).filterMap (fun v => v.2.toOption)
  have hretired := (h.retirees_perm hclear h').map
    (fun id => Outcome.delete id "no longer reachable from seeds")
  rw [h.counts, h'.counts, ← outcomesOf_bare (visits calls), ← outcomesOf_bare (visits calls')]
  exact foldl_count_perm (hvisits.append hretired) _

/-- Clear passes hand on the same tokens. -/
theorem versions_eq (id : String) : report'.versions[id]? = report.versions[id]? := by
  have hclear' := h.explored.clear_of hclear h'.explored
  have houtcome : ∀ o, ((id, .ok o) : Visit) ∈ visits calls' ↔
      ((id, .ok o) : Visit) ∈ visits calls := by
    intro o
    rw [← mem_bare (visits calls), ← mem_bare (visits calls')]
    exact (h.explored.bare_perm hclear h'.explored).mem_iff
  by_cases hsettled : ∃ o, ((id, .ok o) : Visit) ∈ visits calls
  · obtain ⟨o, ho⟩ := hsettled
    rw [h.token_of_outcome hclear ho, h'.token_of_outcome hclear' ((houtcome o).mpr ho)]
  · -- without an outcome the token is kept if the entry is awaited, and it is dropped otherwise
    have hnone : Unsettled calls id := fun known o hc =>
      hsettled ⟨o, mem_visits.mpr ⟨known, hc⟩⟩
    have hnone' : Unsettled calls' id := fun known o hc =>
      hsettled ⟨o, (houtcome o).mp (mem_visits.mpr ⟨known, hc⟩)⟩
    by_cases hawait : Awaited report.deferred id
    · have hawait' := hawait.of_ids (h'.waits_of hclear' h)
      rw [h.reckoned.token_left h.proper hnone hawait,
        h'.reckoned.token_left h'.proper hnone' hawait']
    · have hfree' : ¬Awaited report'.deferred id := fun ha =>
        hawait (ha.of_ids (h.waits_of hclear h'))
      rw [h.reckoned.token_gone h.proper hnone hawait,
        h'.reckoned.token_gone h'.proper hnone' hfree']

/-- **Clear passes make the same report.** -/
theorem matches_of_clear : report'.Matches report := by
  obtain ⟨hingested, hdeleted, hskipped, hunchanged, hbytes, _⟩ :=
    Report.mk.inj (h.counts_eq hclear h')
  have hversions := Std.TreeMap.Equiv.of_forall_constGet?_eq (h.versions_eq hclear h')
  exact ⟨hingested, hdeleted, hskipped, hunchanged, hbytes, h.deferred_perm hclear h', hversions⟩

end Concluded

/-- **The report does not depend on the schedule**, if no entry that is known from before and that
the pass is led to lies below one that has to wait. Two passes over separate entries that both
succeed then count the same, leave the same entries for later and hand on the same tokens, in
whatever order they go through the entries of each level. -/
theorem schedules_agree (h : Separate p view) (schedule schedule' : Schedule)
    (horizon horizon' : Nat) (seeds : List String) (previous : VersionMap) (s : σ)
    (report report' : Report) :
    let r := ((p.pass schedule).traced.run horizon seeds previous).run (s, [])
    r.1 = some (.ok report) →
      (∀ id ∈ previous, Led seeds (visits r.2.2) id → ¬Sheltered report.deferred id) →
      (((p.pass schedule').run horizon' seeds previous).run s).1 = some (.ok report') →
      report'.Matches report := by
  intro r hreport hclear hreport'
  have hfollows := (traced_follows (p.pass schedule')).run horizon' seeds previous (s, [])
  rw [← hfollows.1] at hreport'
  have hr := run_concluded h schedule horizon seeds previous s report hreport
  have hr' := run_concluded h schedule' horizon' seeds previous s report' hreport'
  exact hr.matches_of_clear (hr.clear_iff.mpr hclear) hr'

/-! ## A store whose listings fail -/

/-- What the containers of the store hold. -/
def flakyChildren (id : String) : List String :=
  if id = "/" then ["/sub"] else if id = "/sub" then ["/sub/a"] else ["/sub/a/x"]

/-- Lists a container, unless listing it has to fail once more. -/
def flakyListing (id : String) : Action (StateM (String → Nat)) Listing := ExceptT.mk do
  let left ← get
  if left id = 0 then return .ok (.ofList (flakyChildren id))
  set (Function.update left id (left id - 1))
  return .error (.of (.system .timedOut "stalled"))

theorem flakyListing_run (id : String) (left : String → Nat) :
    (flakyListing id).run.run left =
      if left id = 0 then (.ok (.ofList (flakyChildren id)), left)
      else (.error (.of (.system .timedOut "stalled")),
        Function.update left id (left id - 1)) := by
  change ((if left id = 0 then _ else _ : StateM (String → Nat) _).run left) = _
  split
  · rfl
  · rfl

/-- A processor over three nested containers and two leaves. Listing a container fails as often as
the state says. -/
def flakyCrawl : Processor (StateM (String → Nat)) where
  store :=
    { idStart := ""
      present := fun _ => pure true
      isContainer := fun id => pure (id == "/" || id == "/sub" || id == "/sub/a")
      modified := fun _ => pure 0
      length := fun _ => pure 1
      children := flakyListing
      content := fun _ => pure (.ofBytes ⟨#[97]⟩)
      access := fun _ => pure none
      containerAccess := fun _ => pure none }
  tree := .everything
  encoder := .standard
  sink :=
    { ingest := fun _ content => pure content.bytes.size
      delete := fun _ => pure ()
      skip := fun _ _ => pure ()
      record := fun _ => pure () }
  scratch :=
    { location := ""
      create := pure ""
      clear := fun _ => pure ()
      append := fun _ _ => pure ()
      read := fun _ => pure (.ofBytes .empty)
      discard := fun _ => pure () }
  fingerprinter := fun _ => pure (.ofBytes .empty)
  policy := .immediate
  monitor := ⟨pure 0, pure false, fun _ => pure false, fun _ => pure ()⟩

/-- Only listings look at the state. -/
theorem flaky_attends {T : Moment → Moment → Prop} {R : (String → Nat) → (String → Nat) → Prop}
    (hT : T 0 0)
    (hlisting : Agree R (flakyCrawl.store.children id).run (flakyCrawl.store.children id).run) :
    Attends T (fun _ => R) id flakyCrawl flakyCrawl where
  idStart := rfl
  tree := rfl
  encoder := rfl
  policy := rfl
  location := rfl
  present := fun _ => .pure _
  isContainer := fun _ => .pure _
  modified := fun _ => .pure _
  length := fun _ => .pure _
  children := fun _ => hlisting
  content := fun _ => .pure _
  access := fun _ => .pure _
  containerAccess := fun _ => .pure _
  create := .pure (fun _ _ hR => hR)
  clear := fun _ => .pure _
  append := fun _ _ => .pure _
  read := fun _ => .pure _
  discard := fun _ => .pure (fun _ _ hR => hR)
  fingerprinter := fun _ => .pure _
  ingest := fun _ _ _ _ => .pure _
  delete := fun _ => .pure _
  skip := fun _ _ => .pure _
  record := fun _ _ _ _ _ _ => .pure _
  now := fun _ => .pure (fun _ _ hR => ⟨hT, hR⟩)
  isCancelled := fun _ => .pure _
  pause := fun _ _ => .pure _
  warn := fun _ _ => .pure _

/-- How often listing a container fails is a matter of this container. -/
theorem flaky_separate : Separate flakyCrawl (fun left id => left id) where
  own := by
    intro id
    refine ⟨_, flaky_attends (R := fun t s => t id = s id) trivial ⟨fun t s hsame => ?_⟩,
      fun _ _ => Iff.rfl⟩
    change ((flakyListing id).run.run t).1 = ((flakyListing id).run.run s).1 ∧
      ((flakyListing id).run.run t).2 id = ((flakyListing id).run.run s).2 id
    rw [flakyListing_run, flakyListing_run, hsame]
    split
    · exact ⟨rfl, hsame⟩
    · refine ⟨rfl, ?_⟩
      change Function.update t id (s id - 1) id = Function.update s id (s id - 1) id
      rw [Function.update_self, Function.update_self]
  aside := by
    intro id other hne shown
    refine ⟨_, flaky_attends (R := fun t s => t = s ∧ s other = shown) rfl ⟨fun t s hs => ?_⟩,
      fun _ _ => Iff.rfl⟩
    obtain ⟨rfl, hshown⟩ := hs
    refine ⟨rfl, rfl, ?_⟩
    change ((flakyListing id).run.run t).2 other = shown
    rw [flakyListing_run]
    split
    · exact hshown
    · exact (Function.update_of_ne hne _ _).trans hshown

/-- What is known from before of the store, and of an entry that is gone. -/
def flakyKnown : VersionMap :=
  .ofList [("/gone", "t"), ("/sub", "u"), ("/sub/a", "v"), ("/sub/a/x", "w")]

/-- Listing the root fails once, and listing `/sub` fails for good. -/
def flakyStart : String → Nat := Function.update (Function.update (fun _ => 0) "/" 1) "/sub" 9

/-- The last entry of each level first. -/
def Schedule.reversed : Schedule := ⟨fun _ ids => ids.reverse, fun _ ids => ids.reverse_perm⟩

/-- A pass over the store. -/
def flakyRun (schedule : Schedule) (seeds : List String) :
    Option (Except CrawlError Report) × ((String → Nat) × List PassCall) :=
  ((flakyCrawl.pass schedule).traced.run 4 seeds flakyKnown).run (flakyStart, [])

/-- The seeds, and the children that a pass has come to. -/
def listed (seeds : List String) (done : List Visit) : List String :=
  seeds ++ done.flatMap (fun v => v.2.toOption.elim [] Outcome.children)

/-- A pass is led nowhere else. -/
theorem Led.listed (h : Led seeds done id) : id ∈ listed seeds done := by
  cases h with
  | seed hseed => exact List.mem_append_left _ hseed
  | @child _ v o hv _ ho hid =>
      refine List.mem_append_right _ (List.mem_flatMap.mpr ⟨v, hv, ?_⟩)
      rw [ho]
      exact hid

/-- Nothing is found below `/sub`, so it does not matter which of the seeds comes first. -/
theorem schedules_agree_flaky : ∃ report report',
    (flakyRun .inOrder ["/", "/note"]).1 = some (.ok report) ∧
      (flakyRun .reversed ["/", "/note"]).1 = some (.ok report') ∧ report'.Matches report := by
  have hids : ((flakyRun .inOrder ["/", "/note"]).1.bind Except.toOption).map
      (fun r => r.deferred.map Deferral.id) = some ["/sub"] := by decide +kernel
  have hsome : ((flakyRun .reversed ["/", "/note"]).1.bind Except.toOption).isSome := by
    decide +kernel
  have hlisted : ∀ id ∈ listed ["/", "/note"] (visits (flakyRun .inOrder ["/", "/note"]).2.2),
      Path.below "/sub" id = false := by decide +kernel
  obtain ⟨report, hreport, hids⟩ := Option.map_eq_some_iff.mp hids
  obtain ⟨report', hreport'⟩ := Option.isSome_iff_exists.mp hsome
  have hreport := ok_of_toOption hreport
  have hreport' := ok_of_toOption hreport'
  have hplain := ((traced_follows (flakyCrawl.pass .reversed)).run 4 ["/", "/note"] flakyKnown
    (flakyStart, [])).1
  refine ⟨report, report', hreport, hreport', ?_⟩
  refine schedules_agree flaky_separate .inOrder .reversed 4 4 ["/", "/note"] flakyKnown flakyStart
    report report' hreport ?_ (hplain.symm.trans hreport')
  intro id _ hled hsheltered
  obtain ⟨d, hd, hbelow⟩ := hsheltered
  have hid : d.id ∈ report.deferred.map Deferral.id := List.mem_map_of_mem hd
  rw [hids, List.mem_singleton] at hid
  rw [hid, hlisted id hled.listed] at hbelow
  cases hbelow

/-- **The order of the seeds can decide.** A container and one below it are seeds, and the upper one
has to wait. If the lower one comes first, its leaf is handed over, but its own new token is lost.
Otherwise it keeps its new token, and the leaf is left for later. -/
theorem schedules_differ : Separate flakyCrawl (fun left id => left id) ∧ ∃ report report',
    (flakyRun .inOrder ["/sub/a", "/sub"]).1 = some (.ok report) ∧
      (flakyRun .reversed ["/sub/a", "/sub"]).1 = some (.ok report') ∧
      (report.ingested = 1 ∧ report'.ingested = 0) ∧
      (report.versions["/sub/a"]? = some "v" ∧
        report'.versions["/sub/a"]? = some "---file:////sub/a+0+0+I") ∧
      report.versions["/sub/a/x"]? = some "---file:////sub/a/x+0+1+I" ∧
        report'.versions["/sub/a/x"]? = some "w" := by
  have hfirst : ((flakyRun .inOrder ["/sub/a", "/sub"]).1.bind Except.toOption).map
      (fun r => (r.ingested, r.versions["/sub/a"]?, r.versions["/sub/a/x"]?)) =
        some (1, some "v", some "---file:////sub/a/x+0+1+I") := by decide +kernel
  have hlast : ((flakyRun .reversed ["/sub/a", "/sub"]).1.bind Except.toOption).map
      (fun r => (r.ingested, r.versions["/sub/a"]?, r.versions["/sub/a/x"]?)) =
        some (0, some "---file:////sub/a+0+0+I", some "w") := by decide +kernel
  obtain ⟨report, hreport, hsays⟩ := Option.map_eq_some_iff.mp hfirst
  obtain ⟨report', hreport', hsays'⟩ := Option.map_eq_some_iff.mp hlast
  obtain ⟨hcount, htokens⟩ := Prod.mk.inj hsays
  obtain ⟨hcount', htokens'⟩ := Prod.mk.inj hsays'
  obtain ⟨ha, hx⟩ := Prod.mk.inj htokens
  obtain ⟨ha', hx'⟩ := Prod.mk.inj htokens'
  exact ⟨flaky_separate, report, report', ok_of_toOption hreport, ok_of_toOption hreport',
    ⟨hcount, hcount'⟩, ⟨ha, ha'⟩, hx, hx'⟩

end Harvest
