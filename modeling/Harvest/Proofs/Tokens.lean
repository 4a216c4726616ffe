import Harvest.Proofs.Deferral
import Harvest.Proofs.Fate
import Harvest.Proofs.Shelf
import Harvest.Proofs.Tally

/-!
# The tokens that a pass hands on

The next pass starts from the tokens of this one. An outcome writes the token of its entry, and an
entry that has to wait writes the tokens that it and everything below it had before. Of several
writes the last one counts (`pass_tokens`).

Where nothing is found out about entries below one that has to wait, there is only one write, and an
entry has the token of its outcome. Otherwise the order decides: the token of an outcome is lost to
an entry above that has to wait and is taken in later, and a deleted entry comes back with it
(`tokens_overwritten`).
-/

namespace Harvest

variable {σ : Type} {previous : VersionMap} {calls : List PassCall} {c : PassCall} {id : String}

/-! ## The last write -/

/-- The token that a call writes for an entry. -/
def PassCall.token? (previous : VersionMap) (id : String) : PassCall → Option String
  | .process _ _ (.ok o) => if id = o.id then o.token? else none
  | .process above _ (.error (.transient ..)) =>
      if id = above ∨ Path.below above id = true then previous[id]? else none
  | .retire _ (.ok o) => if id = o.id then o.token? else none
  | _ => none

/-- The token that is written last for an entry. -/
def lastToken (previous : VersionMap) (calls : List PassCall) (id : String) : Option String :=
  calls.reverse.findSome? (PassCall.token? previous id)

theorem lastToken_snoc : lastToken previous (calls ++ [c]) id =
    (c.token? previous id).or (lastToken previous calls id) := by
  unfold lastToken
  rw [List.reverse_append, List.reverse_singleton, List.singleton_append, List.findSome?_cons]
  cases c.token? previous id <;> rfl

/-- A call changes the tokens by what it writes. -/
theorem add_versions (r : Report) : (r.add previous c).versions[id]? =
    (c.token? previous id).or r.versions[id]? := by
  have hwrite : ∀ (cond : Prop) [Decidable cond] (new old : Option String),
      (if cond then new.or old else old) = (if cond then new else none).or old := by
    intro cond _ new old
    split
    · rfl
    · rfl
  have hrecord : ∀ o : Outcome, (r.record o).versions[id]? =
      (if id = o.id then o.token? else none).or r.versions[id]? :=
    fun o => (record_versions r).trans (hwrite _ _ _)
  have hpostpone : ∀ d : Deferral, (r.postpone previous d).versions[id]? =
      (if id = d.id ∨ Path.below d.id id = true then previous[id]? else none).or
        r.versions[id]? := by
    intro d
    -- as a pass does it that knows nothing but the report
    have hreport : (Progress.postpone previous ⟨r, ∅, []⟩ d).report = r.postpone previous d :=
      postpone_report
    rw [← hreport, postpone_versions]
    exact hwrite _ _ _
  cases c with
  | process above known result =>
      cases result with
      | ok o => exact hrecord o
      | error e =>
          cases e with
          | transient operation message window => exact hpostpone ⟨above, message, window⟩
          | absent => rfl
          | cancelled => rfl
          | fatal => rfl
          | config => rfl
  | retire above result =>
      cases result with
      | ok o => exact hrecord o
      | error e => rfl
  | stop => rfl

theorem foldl_add_versions (calls : List PassCall) :
    (calls.foldl (Report.add previous) .empty).versions[id]? = lastToken previous calls id := by
  induction calls using List.reverseRecOn with
  | nil =>
      have hnone : (∅ : VersionMap)[id]? = none := Std.TreeMap.getElem?_emptyc
      exact hnone
  | append_singleton calls c ih =>
      rw [List.foldl_append, List.foldl_cons, List.foldl_nil, add_versions, ih, lastToken_snoc]

/-! ## Every token -/

variable {p : Processor (StateM σ)} {seeds : List String} {horizon : Nat} {report : Report}

/-- What the last write comes to where nothing interferes. -/
structure Handed (previous : VersionMap) (calls : List PassCall) (report : Report) : Prop where
  /-- The last token that was written counts. -/
  last : ∀ id, report.versions[id]? = lastToken previous calls id
  /-- An entry with an outcome has its token, if it was not known before or does not lie below one
  that has to wait. -/
  outcome : ∀ id known o, .process id known (.ok o) ∈ calls →
    (id ∈ previous → ¬Sheltered report.deferred id) → report.versions[id]? = o.token?
  /-- An entry without an outcome that has to wait, or lies below one that has to, has the token it
  had. -/
  awaited : ∀ id, Unsettled calls id → Awaited report.deferred id →
    report.versions[id]? = previous[id]?
  /-- Any other entry without an outcome has no token. -/
  others : ∀ id, Unsettled calls id → ¬Awaited report.deferred id → report.versions[id]? = none
  /-- Nor has one that was retired. -/
  retired : ∀ id ∈ retirees calls, report.versions[id]? = none

/-- **Which tokens a pass hands on.** When a pass succeeds, an entry has the token that was written
last for it. So an entry with an outcome has its token, unless it was known before and lies below
one that has to wait. An entry without an outcome has the token it had if it is awaited, and no
other entry has one. -/
theorem pass_tokens (p : Processor (StateM σ)) (schedule : Schedule) (horizon : Nat)
    (seeds : List String) (previous : VersionMap) (s : σ) (report : Report) :
    let r := ((p.pass schedule).traced.run horizon seeds previous).run (s, [])
    r.1 = some (.ok report) → Handed previous r.2.2 report := by
  intro r hreport
  obtain ⟨hend, hsound⟩ := run_traced_ending (pass_minds (conduct_trivial p) schedule previous)
    horizon seeds (s := s) trivial
  have hadds := run_traced_report (p.pass schedule) horizon seeds previous s report hreport
  rw [hreport] at hend
  have hsilent := silent_of_sound hsound
  have hproper : ∀ c ∈ r.2.2, c.Proper := fun c hc => (hsound c hc).proper
  have hreck := hend.reckoned hsilent
  refine ⟨?_, ?_, ?_, ?_, ?_⟩
  · intro id
    rw [← foldl_add_versions, ← hadds]
  · intro id known o hc hfree
    rcases hreck.token_of_outcome hend.once hproper hc with h | ⟨hknown, hsheltered, _⟩
    · exact h
    · exact absurd hsheltered (hfree hknown)
  · exact fun id hnone hawait => hreck.token_left hproper hnone hawait
  · exact fun id hnone hfree => hreck.token_gone hproper hnone hfree
  · -- what is retired was not visited, and what is awaited is not retired
    intro id hretired
    obtain ⟨hunvisited, hfree⟩ := (hend.covered hsilent).apart id hretired
    refine hreck.token_gone hproper (unsettled_of_unvisited hunvisited) ?_
    intro h0
    rcases h0 with ⟨d, hd, rfl | hbelow⟩
    · obtain ⟨e, hv⟩ := hreck.waiting d hd
      exact hunvisited (List.mem_map_of_mem hv)
    · exact hfree ⟨d, hd, hbelow⟩

/-! ## Where the order decides -/

/-- A container that is given as a seed together with what lies in it. -/
def overlapShelf : Snapshot where
  present := fun id => id == "/sub" || id == "/sub/a"
  isContainer := fun id => id == "/sub"
  modified := fun _ => 2
  length := fun _ => 2
  children := fun id => if id = "/sub" then ["/sub/a"] else []
  content := fun _ => ⟨#[97, 97]⟩
  access := fun _ => none
  containerAccess := fun _ => none

/-- What is known from before of the container, of a leaf that has changed and of one that is gone.
-/
def overlapKnown : VersionMap := .ofList [("/sub", "t"), ("/sub/a", "u"), ("/sub/b", "v")]

/-- A pass over these entries, while listing the container fails. -/
def overlapRun (seeds : List String) :
    Option (Except CrawlError Report) × (Shelf × List PassCall) :=
  (((shelfCrawl .everything .standard).pass .inOrder).traced.run 3 seeds overlapKnown).run
    (⟨overlapShelf, .empty, some (.of (.system .timedOut "stalled"))⟩, [])

/-- The pass succeeds, and the container has to wait. -/
theorem overlap_deferred (seeds : List String)
    (h : ((overlapRun seeds).1.bind Except.toOption).map (fun r => r.deferred.map Deferral.id) =
      some ["/sub"]) :
    ∃ report, (overlapRun seeds).1 = some (.ok report) ∧ Awaited report.deferred "/sub" := by
  obtain ⟨report, hreport, hids⟩ := Option.map_eq_some_iff.mp h
  have hsub : ∃ d ∈ report.deferred, d.id = "/sub" :=
    List.mem_map.mp (hids ▸ List.mem_singleton_self "/sub")
  obtain ⟨d, hd, hid⟩ := hsub
  exact ⟨report, ok_of_toOption hreport, d, hd, Or.inl hid.symm⟩

/-- The container keeps its token, and so does the leaf, whose own was written before. -/
theorem pass_tokens_overlap : ∃ report,
    (overlapRun ["/sub/a", "/sub"]).1 = some (.ok report) ∧ report.versions["/sub"]? = some "t" ∧
      report.versions["/sub/a"]? =
        lastToken overlapKnown (overlapRun ["/sub/a", "/sub"]).2.2 "/sub/a" ∧
      lastToken overlapKnown (overlapRun ["/sub/a", "/sub"]).2.2 "/sub/a" = some "u" := by
  obtain ⟨report, hreport, hawait⟩ := overlap_deferred ["/sub/a", "/sub"] (by decide +kernel)
  have hhanded := pass_tokens (shelfCrawl .everything .standard) .inOrder 3 ["/sub/a", "/sub"]
    overlapKnown ⟨overlapShelf, .empty, some (.of (.system .timedOut "stalled"))⟩ report hreport
  have hnone : ∀ v ∈ visits (overlapRun ["/sub/a", "/sub"]).2.2,
      v.1 = "/sub" → v.2.isOk = false := by decide +kernel
  have hunsettled : Unsettled (overlapRun ["/sub/a", "/sub"]).2.2 "/sub" := fun known o hc =>
    absurd (hnone ("/sub", .ok o) (mem_visits.mpr ⟨known, hc⟩) rfl) (fun h => by cases h)
  refine ⟨report, hreport, ?_, hhanded.last "/sub/a", by decide +kernel⟩
  rw [hhanded.awaited "/sub" hunsettled hawait]
  decide +kernel

/-- **A token can be overwritten by the one before it.** The leaf is handed over again and the other
one is deleted, and then the container above them turns out to have to wait. Both have their old
tokens in the end. -/
theorem tokens_overwritten : ∃ report,
    (overlapRun ["/sub/a", "/sub/b", "/sub"]).1 = some (.ok report) ∧
      ("/sub/a", .ok (.ingest "/sub/a" "---file:////sub/a+2+2+I" 2)) ∈
        visits (overlapRun ["/sub/a", "/sub/b", "/sub"]).2.2 ∧
      report.versions["/sub/a"]? = some "u" ∧
      ("/sub/b", .ok (.delete "/sub/b" "no longer exists")) ∈
        visits (overlapRun ["/sub/a", "/sub/b", "/sub"]).2.2 ∧
      report.versions["/sub/b"]? = some "v" := by
  have hversions : ((overlapRun ["/sub/a", "/sub/b", "/sub"]).1.bind Except.toOption).map
      (fun r => (r.versions["/sub/a"]?, r.versions["/sub/b"]?)) = some (some "u", some "v") := by
    decide +kernel
  obtain ⟨report, hreport, htokens⟩ := Option.map_eq_some_iff.mp hversions
  obtain ⟨ha, hb⟩ := Prod.mk.inj htokens
  exact ⟨report, ok_of_toOption hreport, by decide +kernel, ha, by decide +kernel, hb⟩

end Harvest
