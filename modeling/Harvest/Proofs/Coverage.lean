import Mathlib.Data.Finset.Card
import Mathlib.Data.Set.Finite.Basic
import Harvest.Proofs.Horizon
import Harvest.Proofs.Processing
import Harvest.Proofs.Tracing

/-!
# What a pass covers

Every entry that the store leads to from the seeds is visited, each once, and every entry that was
known before is visited, sheltered or retired. If the store leads to finitely many entries, the pass
comes to an end: every level visits an entry that no level before it has visited.

The store is free to answer differently every time, to fail, and to list the same child over and
over.
-/

namespace Harvest

variable {σ : Type} {p : Processor (StateM σ)} {schedule : Schedule} {previous : VersionMap}
  {seeds : List String} {inv : σ → Prop} {id : String} {known : Option String} {o : Outcome}
  {done retired : List Visit} {calls : List PassCall} {horizon : Nat} {report : Report}

/-! ## What the calls of a pass are about -/

/-- What the entry given to the processor came to. -/
def PassCall.visit? : PassCall → Option Visit
  | .process id _ result => some (id, result)
  | _ => none

/-- The entry that was to be retired. -/
def PassCall.retired? : PassCall → Option String
  | .retire id _ => some id
  | _ => none

/-- The entries that were given to the processor, with what they came to. -/
def visits (calls : List PassCall) : List Visit := calls.filterMap PassCall.visit?

/-- The identifiers of these entries. -/
def visited (calls : List PassCall) : List String := (visits calls).map Prod.fst

/-- The entries that were to be retired. -/
def retirees (calls : List PassCall) : List String := calls.filterMap PassCall.retired?

theorem visits_append (before after : List PassCall) :
    visits (before ++ after) = visits before ++ visits after := List.filterMap_append

theorem visits_passCalls : visits (passCalls previous done retired) = done := by
  have hdone : visits (done.map (processed previous)) = done := by
    unfold visits
    rw [List.filterMap_map]
    exact List.filterMap_some
  have hretired : visits (retired.map retirement) = [] :=
    List.filterMap_eq_nil_iff.mpr (fun c hc => by
      obtain ⟨v, _, rfl⟩ := List.mem_map.mp hc
      rfl)
  rw [passCalls, visits_append, hdone, hretired, List.append_nil]

theorem retirees_passCalls : retirees (passCalls previous done retired) = retired.map Prod.fst := by
  have hdone : retirees (done.map (processed previous)) = [] :=
    List.filterMap_eq_nil_iff.mpr (fun c hc => by
      obtain ⟨v, _, rfl⟩ := List.mem_map.mp hc
      rfl)
  have hretired : retirees (retired.map retirement) = retired.map Prod.fst := by
    unfold retirees
    rw [List.filterMap_map]
    exact congrFun List.filterMap_eq_map retired
  rw [passCalls, retirees, List.filterMap_append]
  change retirees _ ++ retirees _ = _
  rw [hdone, hretired, List.nil_append]

theorem mem_visits {v : Visit} : v ∈ visits calls ↔ ∃ known, .process v.1 known v.2 ∈ calls := by
  unfold visits
  rw [List.mem_filterMap]
  constructor
  · intro h0
    obtain ⟨c, hc, hv⟩ := h0
    cases c with
    | process id known result =>
        obtain rfl := Option.some.inj hv
        exact ⟨known, hc⟩
    | retire id result => cases hv
    | stop => cases hv
  · intro h0
    obtain ⟨known, hc⟩ := h0
    exact ⟨_, hc, rfl⟩

theorem mem_visited {result : Except CrawlError Outcome} (h : .process id known result ∈ calls) :
    id ∈ visited calls :=
  List.mem_map_of_mem (f := Prod.fst) (mem_visits (v := (id, result)).mpr ⟨known, h⟩)

/-! ## What a single call can come to -/

/-- The store lists the child, in a complete listing of its parent and a state with `inv`. -/
def Lists (store : Store (StateM σ)) (inv : σ → Prop) (parent child : String) : Prop :=
  ∃ listing, Answers inv (store.children parent) listing ∧ listing.failure = none ∧
    child ∈ listing.children

/-- What the outcome of a call says of its entry. -/
def Sound (p : Processor (StateM σ)) (inv : σ → Prop) : PassCall → Prop
  | .process id _ result => ∀ o, result = .ok o →
      o.id = id ∧ ∀ child ∈ o.children, Lists p.store inv id child
  | .retire id result => ∀ o, result = .ok o → o = .delete id "no longer reachable from seeds"
  | .stop => True

theorem Verdict.id_eq (h : Verdict p inv id known o) : o.id = id := by cases h <;> rfl

theorem Verdict.lists (h : Verdict p inv id known o) :
    ∀ child ∈ o.children, Lists p.store inv id child := by
  intro child hchild
  cases h with
  | container he hid hrules hkind hlisting hcomplete => exact ⟨_, hlisting, hcomplete, hchild⟩
  | gone habsent => cases hchild
  | excluded he hid hrules => cases hchild
  | unchanged he hid hrules hkind hknown => cases hchild
  | refused he hid hrules hkind hnew hflag => cases hchild
  | accepted he hid hrules hkind hnew hflag => cases hchild
  | welcome he hid hrules hkind hnew hflag hf haccept => cases hchild
  | unwelcome he hid hrules hkind hnew hflag hf hreject => cases hchild

theorem process_sound (h : Conduct p (Keeping inv) (fun _ => True)) :
    Ensures inv (p.process id known)
      (fun result s => inv s ∧ Sound p inv (.process id known result)) := by
  refine (process_spec h id known).imp (fun _ hs => hs) ?_
  intro result s hs
  cases result with
  | error e => exact ⟨hs.1.1, fun o ho => by cases ho⟩
  | ok o =>
      refine ⟨hs.1, ?_⟩
      intro o' ho
      obtain rfl := Except.ok.inj ho
      rcases hs.2 with hv | ⟨⟨reason, rfl⟩, _⟩
      · exact ⟨hv.id_eq, hv.lists⟩
      · -- a failed call reported the entry gone
        exact ⟨rfl, fun child hchild => by cases hchild⟩

theorem retire_sound (h : Conduct p (Keeping inv) (fun _ => True)) :
    Ensures inv (p.retire id) (fun result s => inv s ∧ Sound p inv (.retire id result)) := by
  refine (retire_spec h id).imp (fun _ hs => hs) ?_
  intro result s hs
  cases result with
  | error e => exact ⟨hs.1.1, fun o ho => by cases ho⟩
  | ok o =>
      refine ⟨hs.1, ?_⟩
      intro o' ho
      obtain rfl := Except.ok.inj ho
      exact hs.2

/-- What is retired leaves no token. -/
theorem silent_of_sound (hsound : ∀ c ∈ calls, Sound p inv c) (id : String) (o : Outcome)
    (hc : PassCall.retire id (.ok o) ∈ calls) : o.token? = none := by
  rw [hsound _ hc o rfl]
  rfl

theorem pass_minds (h : Conduct p (Keeping inv) (fun _ => True)) (schedule : Schedule)
    (previous : VersionMap) : Minds (p.pass schedule) previous inv (Sound p inv) where
  process := fun _ => process_sound h
  retire := fun _ => retire_sound h
  isCancelled := h.isCancelled.imp (fun _ hs => hs) (fun _ _ hs => hs.1)
  warn := fun w => (h.warn w).stage none
  stop := trivial

/-! ## Where a pass gets -/

/-- The store leads from the seeds to the entry, by complete listings in states with `inv`. -/
inductive Store.Reaches (store : Store (StateM σ)) (inv : σ → Prop) (seeds : List String) :
    String → Prop where
  | seed {id : String} (h : id ∈ seeds) : store.Reaches inv seeds id
  | child {parent id : String} (h : store.Reaches inv seeds parent)
      (hlists : Lists store inv parent id) : store.Reaches inv seeds id

/-- A pass is led nowhere but where the store leads. -/
theorem Led.reaches (hsound : ∀ c ∈ calls, Sound p inv c) (h : Led seeds (visits calls) id) :
    p.store.Reaches inv seeds id := by
  induction h with
  | seed hseed => exact .seed hseed
  | child hv _ ho hid ih =>
      obtain ⟨known, hc⟩ := mem_visits.mp hv
      exact .child ih ((hsound _ hc _ ho).2 _ hid)

theorem mem_orphans {seen : Std.TreeSet String} :
    id ∈ Pass.orphans previous seen ↔ id ∈ previous ∧ id ∉ seen := by
  unfold Pass.orphans
  rw [List.mem_filter, Std.TreeMap.mem_keys, Bool.not_eq_true', ← Bool.not_eq_true,
    Std.TreeSet.contains_iff_mem]

theorem nodup_orphans (previous : VersionMap) (seen : Std.TreeSet String) :
    (Pass.orphans previous seen).Nodup := Std.TreeMap.nodup_keys.filter _

/-- Outcomes without tokens leave the tokens and the deferrals of a report as they are. -/
theorem foldl_record : ∀ {outcomes : List Outcome} (r : Report),
    (∀ o ∈ outcomes, o.token? = none) →
      (outcomes.foldl Report.record r).deferred = r.deferred ∧
        (outcomes.foldl Report.record r).versions = r.versions
  | [], _, _ => ⟨rfl, rfl⟩
  | o :: outcomes, r, h => by
      obtain ⟨hdeferred, hversions⟩ :=
        foldl_record (r.record o) (fun o' ho' => h o' (List.mem_cons_of_mem o ho'))
      rw [List.foldl_cons, hdeferred, hversions, Report.record, h o List.mem_cons_self]
      exact ⟨count_deferred r, count_versions r⟩

/-- What is known at the end of a pass that succeeds, if no retired entry has left a token. -/
theorem Ending.account (hend : Ending previous seeds horizon calls (some (.ok report)))
    (hsilent : ∀ id o, PassCall.retire id (.ok o) ∈ calls → o.token? = none) :
    ∃ progress, Accounted previous seeds (visits calls) [] progress ∧
      Remembered previous (visits calls) progress ∧
      retirees calls = Pass.orphans previous progress.seen ∧
      report.deferred = progress.report.deferred ∧ report.versions = progress.report.versions := by
  cases hend with
  | @finished done retired progress outcomes hseen hrem horphans houtcomes =>
      have htokens : ∀ o ∈ outcomes, o.token? = none := by
        intro o ho
        have hmem : Except.ok o ∈ retired.map Prod.snd := houtcomes ▸ List.mem_map_of_mem ho
        obtain ⟨v, hv, hvo⟩ := List.mem_map.mp hmem
        have hc : retirement v ∈ passCalls previous done retired :=
          List.mem_append_right _ (List.mem_map_of_mem hv)
        rw [retirement, hvo] at hc
        exact hsilent v.1 o hc
      obtain ⟨hdeferred, hversions⟩ := foldl_record progress.report htokens
      rw [visits_passCalls, retirees_passCalls]
      exact ⟨progress, hseen, hrem, horphans, hdeferred, hversions⟩

/-- Nothing is given to the processor twice, however a pass ends. -/
theorem Ending.once {result : Option (Except CrawlError Report)}
    (h : Ending previous seeds horizon calls result) : (visited calls).Nodup := by
  cases h with
  | beyond hseen hmore hlong =>
      rw [visited, visits_passCalls]
      exact (List.nodup_append.mp hseen.once).1
  | cancelled honce hled =>
      rw [visited, visits_append, visits_passCalls]
      exact (List.append_nil _).symm ▸ honce
  | failed honce hled hcause =>
      rw [visited, visits_passCalls]
      exact honce
  | finished hseen hrem horphans houtcomes =>
      rw [visited, visits_passCalls]
      exact (List.nodup_append.mp hseen.once).1

/-- A pass that has not come to an end is led to more entries than its horizon counts levels. -/
theorem Ending.led (h : Ending previous seeds horizon calls none) :
    ∃ ids : List String, ids.Nodup ∧ horizon < ids.length ∧
      ∀ id ∈ ids, Led seeds (visits calls) id := by
  cases h with
  | @beyond done pending progress hseen hmore hlong =>
      refine ⟨_, hseen.once, ?_, fun id hid => ?_⟩
      · have hpos := List.length_pos_iff.mpr hmore
        rw [List.length_append, List.length_map]
        omega
      · rw [visits_passCalls]
        exact hseen.led id hid

theorem Ending.long (h : Ending previous seeds horizon calls none)
    (hsound : ∀ c ∈ calls, Sound p inv c) :
    ∃ ids : List String, ids.Nodup ∧ horizon < ids.length ∧
      ∀ id ∈ ids, p.store.Reaches inv seeds id := by
  obtain ⟨ids, honce, hlong, hled⟩ := h.led
  exact ⟨ids, honce, hlong, fun id hid => (hled id hid).reaches hsound⟩

/-! ## The whole pass -/

/-- What a pass that succeeds has done about the entries it was led to and those known before. -/
structure Covered (previous : VersionMap) (seeds : List String) (calls : List PassCall)
    (report : Report) : Prop where
  /-- Every seed has been visited. -/
  seeded : ∀ id ∈ seeds, id ∈ visited calls
  /-- So has every child, unless it is known from before and below an entry that has to wait. -/
  children : ∀ id known o, .process id known (.ok o) ∈ calls → ∀ child ∈ o.children,
    child ∈ visited calls ∨ (child ∈ previous ∧ Sheltered report.deferred child)
  /-- What was known before has been visited, or it is kept, or it is retired. -/
  known : ∀ id ∈ previous,
    id ∈ visited calls ∨ Sheltered report.deferred id ∨ id ∈ retirees calls
  /-- Nothing is retired twice. -/
  once : (retirees calls).Nodup
  /-- Nothing is retired that was visited or is kept. -/
  apart : ∀ id ∈ retirees calls, id ∉ visited calls ∧ ¬Sheltered report.deferred id

theorem Ending.covered (hend : Ending previous seeds horizon calls (some (.ok report)))
    (hsilent : ∀ id o, PassCall.retire id (.ok o) ∈ calls → o.token? = none) :
    Covered previous seeds calls report := by
  obtain ⟨progress, hseen, _, horphans, hdeferred, _⟩ := hend.account hsilent
  have hin : ∀ id, id ∈ progress.seen ↔
      id ∈ visited calls ∨ (id ∈ previous ∧ Sheltered report.deferred id) := by
    intro id
    rw [hseen.seen, List.append_nil, hdeferred]
    rfl
  refine ⟨?_, ?_, ?_, ?_, ?_⟩
  · -- nothing is pending in the end, so the seeds are visited
    intro id hid
    have hvisited := hseen.seeded id hid
    rw [List.append_nil] at hvisited
    exact hvisited
  · -- a child has been seen since its parent was visited
    intro id known o hc child hchild
    have hv : ((id, .ok o) : Visit) ∈ visits calls := mem_visits.mpr ⟨known, hc⟩
    have hled := hseen.led id (List.mem_append_left _ (List.mem_map_of_mem hv))
    exact (hin child).mp (hseen.closed child (.child hv hled rfl hchild))
  · -- what has not been seen is retired
    intro id hid
    by_cases h : id ∈ progress.seen
    · rcases (hin id).mp h with hvisited | ⟨_, hsheltered⟩
      · exact Or.inl hvisited
      · exact Or.inr (Or.inl hsheltered)
    · exact Or.inr (Or.inr (horphans ▸ mem_orphans.mpr ⟨hid, h⟩))
  · rw [horphans]
    exact nodup_orphans _ _
  · intro id hid
    rw [horphans, mem_orphans] at hid
    exact ⟨fun h => hid.2 ((hin id).mpr (Or.inl h)),
      fun h => hid.2 ((hin id).mpr (Or.inr ⟨hid.1, h⟩))⟩

theorem length_le_card {ids : List String} {found : Set String} (hfinite : found.Finite)
    (honce : ids.Nodup) (h : ∀ id ∈ ids, id ∈ found) : ids.length ≤ hfinite.toFinset.card := by
  rw [← List.toFinset_card_of_nodup honce]
  refine Finset.card_le_card (fun id hid => ?_)
  exact hfinite.mem_toFinset.mpr (h id (List.mem_toFinset.mp hid))

/-- A pass comes to an end if its horizon counts as many levels as the store leads to entries. -/
theorem run_isSome (h : Conduct p (Keeping inv) (fun _ => True)) {s : σ} (hs : inv s)
    (hfinite : {id | p.store.Reaches inv seeds id}.Finite)
    (hlong : hfinite.toFinset.card ≤ horizon) :
    (((p.pass schedule).run horizon seeds previous).run s).1.isSome := by
  obtain ⟨hend, hsound⟩ := run_traced_ending (pass_minds h schedule previous) horizon seeds hs
  rw [← ((traced_follows (p.pass schedule)).run horizon seeds previous (s, [])).1]
  cases hr : (((p.pass schedule).traced.run horizon seeds previous).run (s, [])).1 with
  | some result => rfl
  | none =>
      rw [hr] at hend
      -- more entries than the store leads to
      obtain ⟨ids, honce, hmany, hreach⟩ := hend.long hsound
      have hfew := length_le_card hfinite honce hreach
      omega

/-- **A pass covers what it is led to.** If the calls keep some `inv` of the state, and the store
leads from the seeds to finitely many entries by its listings in such states, the pass comes to an
end, and to the same one within every horizon that is far enough. In any case no entry is given to
the processor twice. And when the pass succeeds, the seeds and the listed children have been
visited, what was known before has been visited or kept or retired, and what was retired was retired
once and neither visited nor below an entry that has to wait. -/
theorem pass_covers (p : Processor (StateM σ)) (schedule : Schedule) (seeds : List String)
    (previous : VersionMap) (s : σ) :
    (∀ inv : σ → Prop, Conduct p (Keeping inv) (fun _ => True) → inv s →
      {id | p.store.Reaches inv seeds id}.Finite → ∃ bound result, ∀ horizon, bound ≤ horizon →
        (((p.pass schedule).run horizon seeds previous).run s).1 = some result) ∧
    ∀ horizon,
      let r := ((p.pass schedule).traced.run horizon seeds previous).run (s, [])
      (visited r.2.2).Nodup ∧
        ∀ report, r.1 = some (.ok report) → Covered previous seeds r.2.2 report := by
  constructor
  · intro inv h hs hfinite
    have hsome : (((p.pass schedule).run hfinite.toFinset.card seeds previous).run s).1.isSome :=
      run_isSome h hs hfinite (Nat.le_refl _)
    obtain ⟨result, hresult⟩ := Option.isSome_iff_exists.mp hsome
    -- a horizon that suffices can be put off
    refine ⟨hfinite.toFinset.card, result, fun horizon hlong => ?_⟩
    obtain ⟨more, rfl⟩ := Nat.exists_eq_add_of_le hlong
    rw [run_horizon hsome more, hresult]
  · intro horizon
    have hminds := pass_minds (conduct_trivial p) schedule previous
    obtain ⟨hend, hsound⟩ := run_traced_ending hminds horizon seeds (s := s) trivial
    refine ⟨hend.once, fun report hreport => ?_⟩
    rw [hreport] at hend
    exact hend.covered (silent_of_sound hsound)

/-- A processor whose store is a ring: two containers list each other and themselves. -/
def ringCrawl : Processor (StateM Unit) where
  store :=
    { idStart := ""
      present := fun _ => pure true
      isContainer := fun _ => pure true
      modified := fun _ => pure 0
      length := fun _ => pure 0
      children := fun _ => pure (.ofList ["/a", "/b", "/b", "/a"])
      content := fun _ => pure (.ofBytes .empty)
      access := fun _ => pure none
      containerAccess := fun _ => pure none }
  tree := .everything
  encoder := .standard
  sink :=
    { ingest := fun _ _ => pure 0
      delete := fun _ => pure ()
      skip := fun _ _ => pure ()
      record := fun _ => pure () }
  scratch :=
    { location := ""
      create := pure ""
      clear := fun _ => pure ()
      append := fun _ _ => pure ()
      read := fun _ => pure (.ofBytes .empty)
      discard := fun _ => pure () }
  fingerprinter := fun _ => pure (.ofBytes .empty)
  policy := .immediate
  monitor := ⟨pure 0, pure false, fun _ => pure false, fun _ => pure ()⟩

theorem ring_reaches {id : String} (h : ringCrawl.store.Reaches (fun _ => True) ["/a", "/a"] id) :
    id ∈ ["/a", "/b"] := by
  induction h with
  | seed hseed =>
      simp only [List.mem_cons, List.not_mem_nil, or_false, or_self] at hseed
      exact hseed ▸ List.mem_cons_self
  | child _ hlists _ =>
      obtain ⟨listing, ⟨_, _, _, hrun⟩, _, hid⟩ := hlists
      obtain rfl : Listing.ofList ["/a", "/b", "/b", "/a"] = listing :=
        Except.ok.inj (congrArg Prod.fst hrun)
      simp only [Listing.ofList, List.mem_cons, List.not_mem_nil, or_false] at hid ⊢
      rcases hid with rfl | rfl | rfl | rfl
      · exact Or.inl rfl
      · exact Or.inr rfl
      · exact Or.inr rfl
      · exact Or.inl rfl

/-- A pass over the ring, with a seed given twice and an entry known from before. -/
def ringRun : Option (Except CrawlError Report) × (Unit × List PassCall) :=
  ((ringCrawl.pass .inOrder).traced.run 2 ["/a", "/a"] (.ofList [("/old", "t")])).run ((), [])

theorem pass_covers_ring :
    (∃ bound result, ∀ horizon, bound ≤ horizon →
      (((ringCrawl.pass .inOrder).run horizon ["/a", "/a"] (.ofList [("/old", "t")])).run ()).1 =
        some result) ∧
    visited ringRun.2.2 = ["/a", "/b"] ∧ retirees ringRun.2.2 = ["/old"] ∧
    ∃ report, ringRun.1 = some (.ok report) ∧
      Covered (.ofList [("/old", "t")]) ["/a", "/a"] ringRun.2.2 report := by
  obtain ⟨hend, hcover⟩ := pass_covers ringCrawl .inOrder ["/a", "/a"] (.ofList [("/old", "t")]) ()
  have hfinite : {id | ringCrawl.store.Reaches (fun _ => True) ["/a", "/a"] id}.Finite :=
    (List.finite_toSet ["/a", "/b"]).subset (fun id hid => ring_reaches hid)
  have hok : (ringRun.1.bind Except.toOption).isSome = true := by decide +kernel
  refine ⟨hend _ (conduct_trivial ringCrawl) trivial hfinite, by decide +kernel,
    by decide +kernel, ?_⟩
  cases hr : ringRun.1 with
  | none => rw [hr] at hok; cases hok
  | some result =>
      cases result with
      | error e => rw [hr] at hok; cases hok
      | ok report => exact ⟨report, rfl, (hcover 2).2 report hr⟩

end Harvest
