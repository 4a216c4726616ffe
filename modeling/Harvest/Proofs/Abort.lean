import Harvest.Proofs.Coverage
import Harvest.Proofs.Transcript

/-!
# What ends a pass

A pass is to be ended by what concerns the crawl as a whole: a cancellation, or a failure of which
nothing is known. Entries that have to wait or that are gone are dealt with one by one. This holds
of whatever the store, the scratch copies and the fingerprinter run into, and of the receiver as
long as it carries out deletions. A deletion that it turns down ends the pass although its failure
is no more than that of one entry (`Refusal`): an entry that was found to be gone cannot be found
gone once more, and an entry that is retired has nobody who would let it wait (`pass_aborts`,
`refusals_abort`).
-/

namespace Harvest

variable {σ : Type} {p : Processor (StateM σ)} {id : String} {calls : List Call} {e : CrawlError}

/-! ## Deletions that are turned down -/

/-- What the failure to delete an entry amounts to, if it is that of one entry. -/
inductive Refusal (id : String) (f : Failure) : CrawlError → Prop where
  /-- It reads like that of an entry that is gone. -/
  | absent (h : (Signature.ofFailure f).faultClass = .skip) :
      Refusal id f (.absent id (Signature.ofFailure f).display)
  /-- It may pass. -/
  | transient {window : Window} (h : (Signature.ofFailure f).faultClass = .retryable) :
      Refusal id f (.transient "delete" (Signature.ofFailure f).display window)

/-- The failure concerns the crawl, or it is that of a deletion that was turned down. -/
def Grave (id : String) (calls : List Call) (e : CrawlError) : Prop :=
  e.isFatal = true ∨ ∃ f, .delete id (.error f) ∈ calls ∧ Refusal id f e

theorem Grave.mono {more : List Call} (h : Grave id calls e) (hmore : calls ⊆ more) :
    Grave id more e := h.imp_right (fun ⟨f, hc, hf⟩ => ⟨f, hmore hc, hf⟩)

theorem grave_ofFailure (now : Moment) {f : Failure} (hc : .delete id (.error f) ∈ calls) :
    Grave id calls (.ofFailure now "delete" id f) := by
  unfold CrawlError.ofFailure
  dsimp only
  split
  · exact .inr ⟨f, hc, .transient ‹_›⟩
  · exact .inr ⟨f, hc, .absent ‹_›⟩
  · exact .inl rfl
  · exact .inl rfl

theorem delete_grave (p : Processor (StateM σ)) (id reason : String) (calls : List Call) :
    Attempts (Holds calls) (p.transcribed.delete id reason) (fun _ => Holds calls)
      (fun e s => Holds calls s ∧ Grave id s.2 e) := by
  have hdelete : Attempts (Holds calls) (p.transcribed.sink.delete id) (fun _ => Holds calls)
      (fun f s => Holds calls s ∧ .delete id (.error f) ∈ s.2) := by
    refine ⟨fun s hs => ?_⟩
    change Upshot _ _ ((p.sink.delete id).run.run s.1).1
      (_, s.2 ++ [.delete id ((p.sink.delete id).run.run s.1).1])
    generalize (p.sink.delete id).run.run s.1 = r
    obtain ⟨r, t⟩ := r
    cases r with
    | ok _ => exact hs.add _ t
    | error f => exact ⟨hs.add _ t, List.mem_append_right _ (List.mem_singleton_self _)⟩
  have hjudged : Attempts (Holds calls)
      (p.transcribed.judged "delete" id (p.transcribed.sink.delete id)) (fun _ => Holds calls)
      (fun e s => Holds calls s ∧ Grave id s.2 e) := by
    refine Ensures.bind hdelete (fun r => ?_)
    cases r with
    | ok _ => exact Ensures.pure (fun _ hs => hs)
    | error f => exact ⟨fun s hs => ⟨hs.1, grave_ofFailure _ hs.2⟩⟩
  exact hjudged.bind (fun _ => .pure (fun _ hs => hs))

/-! ## Single entries -/

/-- Whatever is called, what has been written down stays. -/
theorem conduct_holds (p : Processor (StateM σ)) (calls : List Call) :
    Conduct p.transcribed (Keeping (Holds calls)) (fun _ => True) :=
  { conduct_written p (calls ⊆ ·) (fun _ _ _ hs => List.subset_append_of_subset_left _ hs) with
    record := fun _ => kept_steady ⟨fun _ hs => hs.add _ _⟩ }

/-- An entry that is neither out of reach nor has to wait has failed for good. -/
theorem isFatal_of_not (hretry : e.isRetryable = false)
    (habsent : ∀ id reason, e ≠ .absent id reason) : e.isFatal = true := by
  cases e with
  | transient operation message window => cases hretry
  | absent id reason => exact absurd rfl (habsent id reason)
  | cancelled => rfl
  | fatal operation source => rfl
  | config message => rfl

/-- What processing fails with: the entry has to wait, or the failure is grave. -/
theorem process_grave (p : Processor (StateM σ)) (id : String) (known : Option String)
    (calls : List Call) :
    Attempts (Holds calls) (p.transcribed.process id known) (fun _ => Holds calls)
      (fun e s => Holds calls s ∧ (e.isRetryable = true ∨ Grave id s.2 e)) := by
  have hconduct := conduct_holds p calls
  have hdecide := (decide_spec hconduct id known).imp (fun _ hs => hs) (fun _ _ hs => hs.1)
    (fun _ _ hs => And.intro hs.1.1 hs.2)
  refine Ensures.bind hdecide (fun decision => ?_)
  have hdelete : Attempts (Upshot (fun _ => Holds calls) (fun e s => Holds calls s ∧ Blames id e)
      decision) (p.transcribed.deleteIfAbsent decision) (fun _ => Holds calls)
      (fun e s => Holds calls s ∧ (e.isRetryable = true ∨ Grave id s.2 e)) := by
    unfold Processor.deleteIfAbsent
    split
    · rename_i id' reason
      refine ⟨fun s hs => ?_⟩
      obtain rfl := hs.2 id' reason rfl
      exact ((delete_grave p id' reason calls).imp (fun _ ht => ht) (fun _ _ ht => ht)
        (fun _ _ ht => ht.imp_right .inr)).run s hs.1
    · rename_i habsent
      refine Ensures.pure (fun s hs => ?_)
      cases decision with
      | ok o => exact hs
      | error e =>
          refine ⟨hs.1, ?_⟩
          cases hretry : e.isRetryable with
          | true => exact .inl rfl
          | false =>
              exact .inr (.inl (isFatal_of_not hretry (fun id' reason he =>
                habsent id' reason (congrArg Except.error he))))
  refine Ensures.bind hdelete (fun result => ⟨fun s hs => ?_⟩)
  -- the record is one more call
  cases result with
  | ok o => exact Holds.add hs _ _
  | error e =>
      exact ⟨Holds.add hs.1 _ _, hs.2.imp_right (fun h => h.mono (List.subset_append_left _ _))⟩

theorem retire_grave (p : Processor (StateM σ)) (id : String) (calls : List Call) :
    Attempts (Holds calls) (p.transcribed.retire id) (fun _ => Holds calls)
      (fun e s => Holds calls s ∧ Grave id s.2 e) := by
  refine Ensures.bind (delete_grave p id _ calls) (fun result => ?_)
  cases result with
  | ok o => exact ⟨fun s hs => Holds.add hs _ _⟩
  | error e => exact Ensures.pure (fun _ hs => hs)

/-! ## The whole pass -/

/-- Whatever a request of the pass fails with, a visited entry has to wait, or the failure is grave.
-/
def Weighed (calls : List Call) : PassCall → Prop
  | .process id _ (.error e) => e.isRetryable = true ∨ Grave id calls e
  | .retire id (.error e) => Grave id calls e
  | _ => True

theorem Weighed.mono {more : List Call} {c : PassCall} (h : Weighed calls c)
    (hmore : calls ⊆ more) : Weighed more c := by
  cases c with
  | process id known result =>
      cases result with
      | ok o => trivial
      | error e => exact Or.imp_right (fun h => Grave.mono h hmore) h
  | retire id result =>
      cases result with
      | ok o => trivial
      | error e => exact Grave.mono h hmore
  | stop => trivial

/-- One more request leaves the others as they were. -/
theorem weighed_snoc {requests : List PassCall} {s t : σ × List Call} {last : PassCall}
    (h : ∀ c ∈ requests, Weighed s.2 c) (hmore : Holds s.2 t) (hlast : Weighed t.2 last) :
    ∀ c ∈ requests ++ [last], Weighed t.2 c :=
  List.forall_mem_append.mpr
    ⟨fun c hc => (h c hc).mono hmore, List.forall_mem_singleton.mpr hlast⟩

theorem weighed_keeps (p : Processor (StateM σ)) (schedule : Schedule) (previous : VersionMap) :
    Keeps (p.transcribed.pass schedule) previous
      (fun requests s => ∀ c ∈ requests, Weighed s.2 c) where
  process := by
    intro requests id
    refine .from_each (fun s hs => Ensures.imp (process_grave p id previous[id]? s.2)
      (fun t ht => ht ▸ List.Subset.refl _) (fun result t ht => ?_))
    cases result with
    | ok o => exact weighed_snoc hs ht trivial
    | error e => exact weighed_snoc hs ht.1 ht.2
  retire := by
    intro requests id
    refine .from_each (fun s hs => Ensures.imp (retire_grave p id s.2)
      (fun t ht => ht ▸ List.Subset.refl _) (fun result t ht => ?_))
    cases result with
    | ok o => exact weighed_snoc hs ht trivial
    | error e => exact weighed_snoc hs ht.1 ht.2
  isCancelled := by
    refine fun requests => .from_each (fun s hs => ⟨fun t ht => ?_⟩)
    subst ht
    change ∀ c ∈ if (p.monitor.isCancelled.run t.1).1 = true then _ else _, Weighed t.2 c
    split
    · exact weighed_snoc (t := t) hs (List.Subset.refl _) trivial
    · exact hs
  warn := fun _ _ => ⟨fun _ hs => hs⟩

theorem Ending.grave {previous : VersionMap} {seeds : List String} {horizon : Nat}
    {requests : List PassCall}
    (hend : Ending previous seeds horizon requests (some (.error e)))
    (hweighed : ∀ c ∈ requests, Weighed calls c) :
    e.isFatal = true ∨ ∃ id f, .delete id (.error f) ∈ calls ∧ Refusal id f e ∧
      (e.isRetryable = true → id ∈ retirees requests) := by
  cases hend with
  | cancelled honce hled => exact .inl rfl
  | @failed done retired _ honce hled hcause =>
      rcases hcause with ⟨v, hv, he, hfinal⟩ | ⟨v, hv, he⟩
      · have hmem : processed previous v ∈ passCalls previous done retired :=
          List.mem_append_left _ (List.mem_map_of_mem hv)
        have hnot : e.isRetryable = false :=
          (isSome_deferral? he).symm.trans (congrArg Option.isSome hfinal)
        have hgrave := hweighed _ hmem
        rw [processed, he] at hgrave
        rcases hgrave with hretry | hfatal | ⟨f, hf, hrefusal⟩
        · exact absurd (hretry.symm.trans hnot) nofun
        · exact .inl hfatal
        · exact .inr ⟨v.1, f, hf, hrefusal, fun hretry => absurd (hretry.symm.trans hnot) nofun⟩
      · have hmem : retirement v ∈ passCalls previous done retired :=
          List.mem_append_right _ (List.mem_map_of_mem hv)
        have hgrave := hweighed _ hmem
        rw [retirement, he] at hgrave
        rcases hgrave with hfatal | ⟨f, hf, hrefusal⟩
        · exact .inl hfatal
        · refine .inr ⟨v.1, f, hf, hrefusal, fun _ => ?_⟩
          rw [retirees_passCalls]
          exact List.mem_map_of_mem hv

/-- **What ends a pass.** A failure that ends it concerns the crawl as a whole, or it is that of a
deletion that the receiver has turned down; and it is one that may pass only if an entry was to be
retired. -/
theorem pass_aborts (p : Processor (StateM σ)) (schedule : Schedule) (horizon : Nat)
    (seeds : List String) (previous : VersionMap) (s : σ) :
    let r := ((p.transcribed.pass schedule).traced.run horizon seeds previous).run ((s, []), [])
    ((p.pass schedule).run horizon seeds previous).run s = (r.1, r.2.1.1) ∧
      ∀ e, r.1 = some (.error e) → e.isFatal = true ∨
        ∃ id f, .delete id (.error f) ∈ r.2.1.2 ∧ Refusal id f e ∧
          (e.isRetryable = true → id ∈ retirees r.2.2) := by
  intro r
  have hwatched := ((transcribed_mimics p).follows schedule).run horizon seeds previous
  have htraced := (traced_follows (p.transcribed.pass schedule)).run horizon seeds previous
  constructor
  · rw [hwatched.run_eq (s, []), htraced.run_eq ((s, []), [])]
  · intro e hr
    obtain ⟨hend, hweighed⟩ := run_traced (weighed_keeps p schedule previous) horizon seeds
      (s := (s, [])) (fun c hc => nomatch hc)
    rw [show _ = some (Except.error e) from hr] at hend
    exact hend.grave hweighed

/-- The failure that a pass has ended with. -/
def failureOf? : Option (Except CrawlError Report) → Option CrawlError
  | some (.error e) => some e
  | _ => none

theorem failureOf?_eq_some {result : Option (Except CrawlError Report)}
    (h : failureOf? result = some e) : result = some (.error e) := by
  unfold failureOf? at h
  split at h
  · rw [Option.some.inj h]
  · cases h

/-- A receiver that turns deletions down, for entries that are all there, or all gone. -/
def refusingCrawl (there : Bool) (f : Failure) : Processor (StateM Unit) :=
  { ringCrawl with
    store := { ringCrawl.store with present := fun _ => pure there }
    sink := { ringCrawl.sink with delete := fun _ => throw f } }

/-- A failure that may pass. -/
def stalling : Failure := .of (.system .timedOut "stalled")

/-- A failure that reads like that of an entry that is gone. -/
def lacking : Failure := .of (.system .notFound "no such index")

/-- The receiver is too slow to delete an entry that is known from before and gone now. -/
def stallingRun : Option (Except CrawlError Report) × ((Unit × List Call) × List PassCall) :=
  (((refusingCrawl true stalling).transcribed.pass .inOrder).traced.run 3 ["/a"]
    (.ofList [("/old", "t")])).run (((), []), [])

/-- The pass ends with the deletion that was turned down. -/
theorem pass_aborts_stalling : ∃ e f, stallingRun.1 = some (.error e) ∧
    (∃ id, .delete id (.error f) ∈ stallingRun.2.1.2 ∧ id ∈ retirees stallingRun.2.2) ∧
      e.isRetryable = true := by
  have hkind : (failureOf? stallingRun.1).map (fun e => (e.isRetryable, e.isFatal)) =
      some (true, false) := by decide +kernel
  obtain ⟨e, he, hkind⟩ := Option.map_eq_some_iff.mp hkind
  obtain ⟨hretry, hfatal⟩ := Prod.mk.inj hkind
  have hr := failureOf?_eq_some he
  have habort := pass_aborts (refusingCrawl true stalling) .inOrder 3 ["/a"]
    (.ofList [("/old", "t")]) ()
  rcases habort.2 e hr with h | ⟨id, f, hf, _, hretired⟩
  · rw [hfatal] at h
    cases h
  · exact ⟨e, f, hr, ⟨id, hf, hretired hretry⟩, hretry⟩

/-- **A deletion that is turned down ends the pass**, although its failure is that of one entry: one
that is retired and would have to wait, or one that was found to be gone. -/
theorem refusals_abort :
    (failureOf? ((((refusingCrawl true stalling).pass .inOrder).run 3 ["/a"]
      (.ofList [("/old", "t")])).run ()).1).map CrawlError.isFatal = some false ∧
    (failureOf? ((((refusingCrawl true lacking).pass .inOrder).run 3 ["/a"]
      (.ofList [("/old", "t")])).run ()).1).map CrawlError.isFatal = some false ∧
    (failureOf? ((((refusingCrawl false lacking).pass .inOrder).run 3 ["/a"]
      ∅).run ()).1).map CrawlError.isFatal = some false :=
  ⟨by decide +kernel, by decide +kernel, by decide +kernel⟩

end Harvest
