import Harvest.Proofs.Contexts
import Harvest.Proofs.Coverage
import Harvest.Proofs.Transcript

/-!
# Why an entry is deleted

An entry is to be deleted if the store says that it is not there or cannot be reached, or if the
rules exclude it (`Warranted`). `process_deletes` traces every deletion that processing comes to
back to such a reason in the transcript of the run, or to one thing that is none: a call that has
nothing to do with the store has failed, and its failure read like that of an entry that is gone
(`LocalFails`). All failures are judged by their codes and texts alone, so a scratch copy that has
vanished, a fingerprinter without its model or a receiver that answers "not found" costs the
receiver a live entry (`local_failure_deletes`).

Two local calls are exempt: a scratch copy that cannot be made ends the crawl, and a deletion that
the receiver turns down is no reason for another one.
-/

namespace Harvest

variable {σ α β ε : Type} {p : Processor (StateM σ)} {id operation : String}
  {calls more : List Call} {e : Entry} {f : Failure} {c : Call} {o : Outcome}

/-! ## Reasons -/

/-- The failure reads like that of an entry that is gone or out of reach. -/
def Failure.Skips (f : Failure) : Prop := (Signature.ofFailure f).faultClass = .skip

/-- A call to the store about the entry has failed; an answer that breaks off is a failure. -/
inductive StoreFails (id : String) (f : Failure) : Call → Prop where
  | present : StoreFails id f (.present id (.error f))
  | isContainer : StoreFails id f (.isContainer id (.error f))
  | modified : StoreFails id f (.modified id (.error f))
  | length : StoreFails id f (.length id (.error f))
  | access : StoreFails id f (.access id (.error f))
  | containerAccess : StoreFails id f (.containerAccess id (.error f))
  | children : StoreFails id f (.children id (.error f))
  | listing {listing : Listing} (h : listing.failure = some f) :
      StoreFails id f (.children id (.ok listing))
  | content : StoreFails id f (.content id (.error f))
  | reading {content : Content} (h : content.failure = some f) :
      StoreFails id f (.content id (.ok content))

/-- A call has failed that does not ask the store: filling or reading the scratch copy, taking its
fingerprint, or telling the receiver to take in or to skip the entry. -/
inductive LocalFails (id : String) (f : Failure) : Call → Prop where
  | clear {path : String} : LocalFails id f (.clear path (.error f))
  | append {path : String} {piece : ByteArray} : LocalFails id f (.append path piece (.error f))
  | read {path : String} : LocalFails id f (.read path (.error f))
  | fingerprint {path : String} : LocalFails id f (.fingerprint path (.error f))
  | ingest {request : Delivery} {content : Content} (h : request.id = id) :
      LocalFails id f (.ingest request content (.error f))
  | skip {reason : SkipReason} : LocalFails id f (.skip id reason (.error f))

/-- The store has answered what the entry holds; what was not asked for has its default. -/
structure Saw (p : Processor (StateM σ)) (calls : List Call) (e : Entry) : Prop where
  present : .present e.id (.ok true) ∈ calls
  kind : .isContainer e.id (.ok e.isContainer) ∈ calls
  modified : .modified e.id (.ok e.modified) ∈ calls
  length : if e.isContainer = false then .length e.id (.ok e.length) ∈ calls else e.length = 0
  access : if p.encoder.entryAccess = .native then .access e.id (.ok e.access) ∈ calls
    else e.access = none
  containerAccess : if p.encoder.containerAccess = .native then
      .containerAccess e.id (.ok e.containerAccess) ∈ calls
    else e.containerAccess = none

/-- The calls give a reason to delete the entry. -/
inductive Warranted (p : Processor (StateM σ)) (id : String) (calls : List Call) : Prop where
  /-- The store says that there is no such entry. -/
  | gone (h : .present id (.ok false) ∈ calls)
  /-- The rules have no use for it. -/
  | excluded {e : Entry} (he : Saw p calls e) (hid : e.id = id)
      (hrules : p.tree.mayInclude e = false)
  /-- The flag of its version says so. -/
  | refused {e : Entry} (he : Saw p calls e) (hid : e.id = id)
      (hflag : (Version.ofToken (p.token e)).ambiguity = .forcedExclude)
  /-- The rules have no use for it, by its fingerprint. -/
  | unwelcome {e : Entry} {path : String} {f : Fingerprint} (he : Saw p calls e) (hid : e.id = id)
      (hf : .fingerprint path (.ok f) ∈ calls) (hrules : p.tree.wouldInclude e f.indexable = false)
  /-- The store fails, as if it were gone or out of reach. -/
  | unreachable {c : Call} {f : Failure} (hc : c ∈ calls) (hf : StoreFails id f c) (hskip : f.Skips)

/-- The calls give a reason to delete the entry, or something else has failed that reads like one.
-/
def Prompted (p : Processor (StateM σ)) (id : String) (calls : List Call) : Prop :=
  Warranted p id calls ∨ ∃ c ∈ calls, ∃ f, LocalFails id f c ∧ f.Skips

theorem asked_mono {asked : Prop} [Decidable asked] {default : Prop}
    (h : if asked then c ∈ calls else default) (hmore : calls ⊆ more) :
    if asked then c ∈ more else default := by
  split
  · rw [if_pos ‹_›] at h
    exact hmore h
  · rw [if_neg ‹_›] at h
    exact h

theorem Saw.mono (h : Saw p calls e) (hmore : calls ⊆ more) : Saw p more e where
  present := hmore h.present
  kind := hmore h.kind
  modified := hmore h.modified
  length := asked_mono h.length hmore
  access := asked_mono h.access hmore
  containerAccess := asked_mono h.containerAccess hmore

theorem Warranted.mono (h : Warranted p id calls) (hmore : calls ⊆ more) : Warranted p id more := by
  cases h with
  | gone h => exact .gone (hmore h)
  | excluded he hid hrules => exact .excluded (he.mono hmore) hid hrules
  | refused he hid hflag => exact .refused (he.mono hmore) hid hflag
  | unwelcome he hid hf hrules => exact .unwelcome (he.mono hmore) hid (hmore hf) hrules
  | unreachable hc hf hskip => exact .unreachable (hmore hc) hf hskip

theorem Prompted.mono (h : Prompted p id calls) (hmore : calls ⊆ more) : Prompted p id more :=
  h.imp (fun h => h.mono hmore) (fun ⟨c, hc, hf⟩ => ⟨c, hmore hc, hf⟩)

theorem prompted_of_store (hc : c ∈ calls) (hf : StoreFails id f c) (hskip : f.Skips) :
    Prompted p id calls := .inl (.unreachable hc hf hskip)

theorem prompted_of_local (hc : c ∈ calls) (hf : LocalFails id f c) (hskip : f.Skips) :
    Prompted p id calls := .inr ⟨c, hc, f, hf, hskip⟩

/-! ## Failures and their context -/

theorem skips_of_reopening (h : (f.within "Failed to reopen scratch copy").Skips) : f.Skips :=
  (faultClass_within_of_fatal (by decide +kernel) f).symm.trans h

/-- A failure that is judged to mean that an entry is gone reads like that. -/
theorem skips_of_absent {now : Moment} {id' reason : String}
    (h : CrawlError.ofFailure now operation id f = .absent id' reason) : id' = id ∧ f.Skips := by
  unfold CrawlError.ofFailure at h
  dsimp only at h
  split at h
  · cases h
  · cases h
    exact ⟨rfl, ‹_›⟩
  · cases h
  · cases h

/-! ## Following the transcript -/

/-- Made after `calls`, the action leaves a transcript that goes on from the one before, and of
which `good` holds if it succeeds, and `bad` if it fails. -/
def Tracks (bad : ε → List Call → Prop) (calls : List Call)
    (act : ExceptT ε (StateM (σ × List Call)) α) (good : α → List Call → Prop) : Prop :=
  ∀ more, calls ⊆ more → Attempts (Holds more) act (fun a s => Holds more s ∧ good a s.2)
    (fun e s => Holds more s ∧ bad e s.2)

namespace Tracks

variable {bad : ε → List Call → Prop} {act : ExceptT ε (StateM (σ × List Call)) α}
  {good good' : α → List Call → Prop} {final : β → List Call → Prop}

theorem pure {a : α} (h : ∀ more, calls ⊆ more → good a more) :
    Tracks bad calls (Pure.pure a : ExceptT ε (StateM (σ × List Call)) α) good := fun _ hmore =>
  .pure (fun s hs => ⟨hs, h s.2 (List.Subset.trans hmore hs)⟩)

theorem throw {e : ε} (h : ∀ more, calls ⊆ more → bad e more) :
    Tracks bad calls (MonadExcept.throw e : ExceptT ε (StateM (σ × List Call)) α) good :=
  fun _ hmore => .throw (fun s hs => ⟨hs, h s.2 (List.Subset.trans hmore hs)⟩)

theorem bind {next : α → ExceptT ε (StateM (σ × List Call)) β} (hact : Tracks bad calls act good)
    (hnext : ∀ a more, calls ⊆ more → good a more → Tracks bad more (next a) final) :
    Tracks bad calls (act >>= next) final := by
  refine fun more hmore => (hact more hmore).bind (fun a => ⟨?_⟩)
  intro s h0
  obtain ⟨hs, hgood⟩ := h0
  -- what is known from now on is all that has been written down
  have hrest := hnext a s.2 (List.Subset.trans hmore hs) hgood s.2 (List.Subset.refl _)
  have hlonger : ∀ t : σ × List Call, Holds s.2 t → Holds more t :=
    fun t ht => List.Subset.trans hs ht
  exact (hrest.imp (fun _ ht => ht) (fun _ t ht => ⟨hlonger t ht.1, ht.2⟩)
    (fun _ t ht => ⟨hlonger t ht.1, ht.2⟩)).run s (List.Subset.refl _)

theorem imp (h : Tracks bad calls act good)
    (hgood : ∀ a more, calls ⊆ more → good a more → good' a more) :
    Tracks bad calls act good' := fun more hmore =>
  (h more hmore).imp (fun _ hs => hs)
    (fun a s hs => ⟨hs.1, hgood a s.2 (List.Subset.trans hmore hs.1) hs.2⟩) (fun _ _ hs => hs)

theorem ite {c : Prop} [Decidable c] {yes no : ExceptT ε (StateM (σ × List Call)) α}
    (hyes : c → Tracks bad calls yes good) (hno : ¬c → Tracks bad calls no good) :
    Tracks bad calls (if c then yes else no) good := fun more hmore =>
  .ite (fun hc => hyes hc more hmore) (fun hc => hno hc more hmore)

theorem iteBind {c : Prop} [Decidable c] {yes no : ExceptT ε (StateM (σ × List Call)) α}
    {next : α → ExceptT ε (StateM (σ × List Call)) β}
    (hyes : c → Tracks bad calls yes good) (hno : ¬c → Tracks bad calls no good)
    (hnext : ∀ a more, calls ⊆ more → good a more → Tracks bad more (next a) final) :
    Tracks bad calls (if c then yes >>= next else no >>= next) final :=
  ite (fun hc => (hyes hc).bind hnext) (fun hc => (hno hc).bind hnext)

end Tracks

/-- If the failure reads like that of an entry that is gone, its deletion is prompted. -/
def Explained (p : Processor (StateM σ)) (id : String) (f : Failure) (calls : List Call) : Prop :=
  f.Skips → Prompted p id calls

/-- Processing finds no other entry gone than its own, and not without being prompted. -/
def Misses (p : Processor (StateM σ)) (id : String) (e : CrawlError) (calls : List Call) : Prop :=
  ∀ id' reason, e = .absent id' reason → id' = id ∧ Prompted p id calls

/-! ## Single calls -/

theorem jot_tracks {act : Action (StateM σ) α} {call : Except Failure α → Call}
    (hfail : ∀ f more, calls ⊆ more → call (.error f) ∈ more → f.Skips → Prompted p id more) :
    Tracks (Explained p id) calls (jot act call) (fun a more => call (.ok a) ∈ more) := by
  refine fun more hmore => ⟨fun s hs => ?_⟩
  change Upshot _ _ (act.run.run s.1).1 ((act.run.run s.1).2, s.2 ++ [call (act.run.run s.1).1])
  generalize act.run.run s.1 = r
  obtain ⟨r, t⟩ := r
  have hold : Holds more (t, s.2 ++ [call r]) := List.subset_append_of_subset_left _ hs
  have hnew : call r ∈ s.2 ++ [call r] := List.mem_append_right _ (List.mem_singleton_self _)
  cases r with
  | ok a => exact ⟨hold, hnew⟩
  | error f => exact ⟨hold, hfail f _ (List.Subset.trans hmore hold) hnew⟩

/-- The cancellation of a crawl does not read like that. -/
theorem cancelled_skips : ¬Failure.cancelled.Skips := by
  unfold Failure.Skips
  decide +kernel

/-- Retrying a call is no reason for anything. -/
theorem tryFrom_tracks {act : Action (StateM (σ × List Call)) α} {good : α → List Call → Prop}
    (hact : Tracks (Explained p id) calls act good) :
    ∀ (left attempt : Nat) (last : Option Streak),
      Tracks (Explained p id) calls (p.transcribed.retrying.tryFrom operation act left attempt last)
        good
  | left, attempt, last => by
      intro more hmore
      have hstop : ∀ s : σ × List Call, Holds more s →
          Holds more s ∧ Explained p id .cancelled s.2 :=
        fun s hs => ⟨hs, fun h => absurd h cancelled_skips⟩
      have hbeside : ∀ {γ : Type} (act : StateM σ γ),
          Ensures (Holds more) (beside act) (fun _ => Holds more) := fun _ => ⟨fun _ hs => hs⟩
      rw [Retrying.tryFrom]
      refine (hbeside _).bind (fun cancelled => ?_)
      refine Ensures.ite (fun _ => Ensures.pure hstop) (fun _ => ?_)
      refine Ensures.bind (hact more hmore) (fun r => ?_)
      cases r with
      | ok a => exact Ensures.pure (fun s hs => hs)
      | error f =>
          refine Ensures.ite (fun _ => Ensures.pure (fun s hs => hs)) (fun _ => ?_)
          cases left with
          | zero => exact Ensures.pure (fun s hs => hs)
          | succ left =>
              refine Ensures.ite (fun _ => Ensures.pure (fun s hs => hs)) (fun _ => ?_)
              refine Ensures.imp ?_ (fun s hs => hs.1) (fun _ _ hs => hs)
              refine (hbeside _).bind (fun _ => ?_)
              have hwait : Ensures (Holds more)
                  (p.transcribed.retrying.wait (p.transcribed.retrying.policy.backoff attempt))
                  (fun _ => Holds more) :=
                Ensures.ite (fun _ => Ensures.pure (fun s hs => hs)) (fun _ => hbeside _)
              refine hwait.bind (fun _ => ?_)
              refine Ensures.ite (fun _ => Ensures.pure hstop) (fun _ => ?_)
              exact tryFrom_tracks hact left _ _ more hmore

theorem judged_tracks {act : Action (StateM (σ × List Call)) α} {good : α → List Call → Prop}
    (hact : Tracks (Explained p id) calls act good) :
    Tracks (Misses p id) calls (p.transcribed.judged operation id act) good := by
  refine fun more hmore => Ensures.bind (hact more hmore) (fun r => ?_)
  cases r with
  | ok a => exact Ensures.pure (fun s hs => hs)
  | error f =>
      refine ⟨fun s hs => ⟨hs.1, fun id' reason h => ?_⟩⟩
      obtain ⟨rfl, hskip⟩ := skips_of_absent h
      exact ⟨rfl, hs.2 hskip⟩

theorem call_tracks (k : StoreCall) {act : Action (StateM (σ × List Call)) α}
    {good : α → List Call → Prop} (hact : Tracks (Explained p id) calls act good) :
    Tracks (Misses p id) calls (p.transcribed.call k id act) good :=
  judged_tracks (tryFrom_tracks hact _ _ _)

/-- Asking the store about an entry. -/
theorem ask_tracks (k : StoreCall) {act : Action (StateM σ) α} {call : Except Failure α → Call}
    (hfail : ∀ f, StoreFails id f (call (.error f))) :
    Tracks (Misses p id) calls (p.transcribed.call k id (jot act call))
      (fun a more => call (.ok a) ∈ more) :=
  call_tracks k (jot_tracks (fun f _ _ hc => prompted_of_store hc (hfail f)))

/-- Asking the store for what may not be needed. -/
theorem askIf_tracks (k : StoreCall) {asked : Prop} [Decidable asked]
    {act : Action (StateM σ) (Option α)} {call : Except Failure (Option α) → Call}
    (hfail : ∀ f, StoreFails id f (call (.error f))) (hasked : asked) :
    Tracks (Misses p id) calls (p.transcribed.call k id (jot act call))
      (fun a more => if asked then call (.ok a) ∈ more else a = none) :=
  (ask_tracks k hfail).imp (fun a more _ hc => by rw [if_pos hasked]; exact hc)

theorem unasked_tracks {asked : Prop} [Decidable asked] {call : Option α → Call}
    (hasked : ¬asked) :
    Tracks (Misses p id) calls (Pure.pure none : Processing (StateM (σ × List Call)) (Option α))
      (fun a more => if asked then call a ∈ more else a = none) :=
  .pure (fun _ _ => by rw [if_neg hasked])

/-! ## Looking at an entry -/

theorem describe_tracks (p : Processor (StateM σ)) (id : String) (calls : List Call) :
    Tracks (Misses p id) calls (p.transcribed.describe id) (fun found more => match found with
      | none => .present id (.ok false) ∈ more
      | some e => e.id = id ∧ Saw p more e) := by
  unfold Processor.describe
  refine (ask_tracks .present (fun _ => .present)).bind (fun there c₁ _ hthere => ?_)
  refine .ite (fun hc => .pure (fun more hmore => ?_)) (fun hc => ?_)
  · have hfalse : there = false := by simpa using hc
    exact hmore (hfalse ▸ hthere)
  have htrue : there = true := by simpa using hc
  refine (ask_tracks .isContainer (fun _ => .isContainer)).bind (fun isContainer c₂ h₂ hkind => ?_)
  refine (ask_tracks .modified (fun _ => .modified)).bind (fun modified c₃ h₃ hmodified => ?_)
  -- a container is not asked for its length
  have hzero : isContainer = true → Tracks (Misses p id) c₃
      (Pure.pure 0 : Processing (StateM (σ × List Call)) UInt64) (fun length more =>
        if isContainer = false then .length id (.ok length) ∈ more else length = 0) := fun hc =>
    .pure (fun _ _ => by rw [if_neg (by rw [hc]; exact nofun)])
  refine .iteBind hzero (fun hc => (ask_tracks .length (fun _ => .length)).imp
    (fun _ _ _ h => by rw [if_pos (by simpa using hc)]; exact h)) (fun length c₄ h₄ hlength => ?_)
  refine .iteBind (askIf_tracks .access (fun _ => .access)) unasked_tracks
    (fun access c₅ h₅ haccess => ?_)
  refine .iteBind (askIf_tracks .containerAccess (fun _ => .containerAccess)) unasked_tracks
    (fun containerAccess c₆ h₆ hcontainerAccess => ?_)
  refine .pure (fun more hmore => ⟨rfl, ?_⟩)
  have hsame : (⟨id, if isContainer then .container else .leaf, length, modified, access,
      containerAccess⟩ : Entry).isContainer = isContainer := by
    cases isContainer <;> rfl
  have h₆' : c₅ ⊆ more := List.Subset.trans h₆ hmore
  have h₅' : c₄ ⊆ more := List.Subset.trans h₅ h₆'
  have h₃' : c₃ ⊆ more := List.Subset.trans h₄ h₅'
  refine ⟨h₃' (h₃ (h₂ (htrue ▸ hthere))), ?_, h₃' hmodified, ?_,
    asked_mono haccess h₆', asked_mono hcontainerAccess hmore⟩
  · rw [hsame]
    exact h₃' (h₃ hkind)
  · rw [hsame]
    exact asked_mono hlength h₅'

theorem children_tracks (p : Processor (StateM σ)) (id : String) (calls : List Call) :
    Tracks (Misses p id) calls (p.transcribed.children id) (fun _ _ => True) := by
  refine call_tracks .children ?_
  refine (jot_tracks (fun f _ _ hc => prompted_of_store hc .children)).bind ?_
  intro listing more _ hlisting
  cases hf : listing.failure with
  | none => exact .pure (fun _ _ => trivial)
  | some f => exact .throw (fun _ hmore => prompted_of_store (hmore hlisting) (.listing hf))

/-! ## Telling the receiver -/

/-- A deletion is that of the entry, and there is a reason for it. -/
def Justified (p : Processor (StateM σ)) (id : String) (o : Outcome) (calls : List Call) : Prop :=
  ∀ id' reason, o = .delete id' reason → id' = id ∧ Prompted p id calls

theorem Justified.mono (h : Justified p id o calls) (hmore : calls ⊆ more) :
    Justified p id o more := fun id' reason ho =>
  (h id' reason ho).imp_right (fun h => h.mono hmore)

theorem delete_tracks (h : Prompted p id calls) (reason : String) :
    Tracks (Misses p id) calls (p.transcribed.delete id reason) (Justified p id) := by
  have hdelete : Tracks (Explained p id) calls (p.transcribed.sink.delete id)
      (fun _ more => .delete id (.ok ()) ∈ more) :=
    -- a deletion that is turned down had its reason before
    jot_tracks (fun _ _ hmore _ _ => h.mono hmore)
  refine (judged_tracks hdelete).bind (fun _ more hmore _ => .pure (fun more' hmore' => ?_))
  intro id' reason' ho
  cases ho
  exact ⟨rfl, h.mono (List.Subset.trans hmore hmore')⟩

theorem skip_tracks (p : Processor (StateM σ)) (id : String) (reason : SkipReason) (token : String)
    (calls : List Call) :
    Tracks (Misses p id) calls (p.transcribed.skip id reason token) (Justified p id) :=
  (judged_tracks (jot_tracks (fun _ _ _ hc => prompted_of_local hc .skip))).bind
    (fun _ _ _ _ => .pure (fun _ _ _ _ ho => by cases ho))

theorem handOver_tracks (p : Processor (StateM σ)) (request : Delivery) (content : Content)
    (calls : List Call) :
    Tracks (Misses p request.id) calls (p.transcribed.handOver request content)
      (Justified p request.id) :=
  (judged_tracks (jot_tracks (fun _ _ _ hc => prompted_of_local hc (.ingest rfl)))).bind
    (fun _ _ _ _ => .pure (fun _ _ _ _ ho => by cases ho))

/-! ## Scratch copies -/

theorem appendAll_tracks (p : Processor (StateM σ)) (id path : String) :
    ∀ (pieces : List ByteArray) (calls : List Call),
      Tracks (Explained p id) calls (p.transcribed.scratch.appendAll path pieces) (fun _ _ => True)
  | [], _ => .pure (fun _ _ => trivial)
  | _ :: pieces, _ =>
      (jot_tracks (fun _ _ _ hc => prompted_of_local hc .append)).bind
        (fun _ more _ _ => appendAll_tracks p id path pieces more)

theorem copy_tracks (p : Processor (StateM σ)) (path id : String) (calls : List Call) :
    Tracks (Explained p id) calls
      (do p.transcribed.scratch.fill path (← p.transcribed.store.content id))
      (fun _ _ => True) := by
  refine (jot_tracks (fun f _ _ hc => prompted_of_store hc .content)).bind ?_
  intro content c₁ _ hcontent
  refine (jot_tracks (fun f _ _ hc => prompted_of_local hc .clear)).bind (fun _ c₂ h₂ _ => ?_)
  refine (appendAll_tracks p id path content.pieces c₂).bind (fun _ c₃ h₃ _ => ?_)
  cases hf : content.failure with
  | none => exact .pure (fun _ _ => trivial)
  | some f =>
      exact .throw (fun more hmore => prompted_of_store (hmore (h₃ (h₂ hcontent))) (.reading hf))

/-- Work with a copy; whether the copy can be made is no reason to delete the entry. -/
theorem withCopy_tracks {work : String → Processing (StateM (σ × List Call)) Outcome}
    (hwork : ∀ path more, calls ⊆ more → Tracks (Misses p id) more (work path) (Justified p id)) :
    Tracks (Misses p id) calls (p.transcribed.withCopy id work) (Justified p id) := by
  intro more hmore
  have hcreate : Ensures (Holds more) p.transcribed.scratch.create.run (fun _ => Holds more) :=
    ⟨fun _ hs => List.subset_append_of_subset_left _ hs⟩
  refine hcreate.bind (fun r => ?_)
  cases r with
  | error f => exact Ensures.pure (fun s hs => ⟨hs, fun _ _ h => by cases h⟩)
  | ok path =>
      have hfetch := call_tracks .content (copy_tracks p path id calls)
      refine Ensures.bind ((hfetch.bind (fun _ more' h _ => hwork path more' h)) more hmore)
        (fun r => ?_)
      -- discarding the copy is one more call
      refine ⟨fun s hs => ?_⟩
      have hdiscard : s.2 ⊆ s.2 ++ [.discard path] := List.subset_append_left _ _
      cases r with
      | ok o => exact ⟨List.Subset.trans hs.1 hdiscard, hs.2.mono hdiscard⟩
      | error e =>
          exact ⟨List.Subset.trans hs.1 hdiscard, fun id' reason he =>
            (hs.2 id' reason he).imp_right (fun h => h.mono hdiscard)⟩

theorem ingestCopy_tracks (he : Saw p calls e) (token path : String) :
    Tracks (Misses p e.id) calls (p.transcribed.ingestCopy e token path) (Justified p e.id) := by
  refine (judged_tracks (jot_tracks (fun f _ _ hc => prompted_of_local hc .fingerprint))).bind ?_
  intro f c₁ h₁ hf
  refine .ite (fun _ => ?_) (fun hreject => ?_)
  · have hread : Tracks (Explained p e.id) c₁ (Action.within "Failed to reopen scratch copy"
        (p.transcribed.scratch.read path)) (fun _ _ => True) := by
      have hread : Tracks (Explained p e.id) c₁ (p.transcribed.scratch.read path) _ :=
        jot_tracks (fun f _ _ hc => prompted_of_local hc .read)
      refine fun more hmore => Ensures.bind (hread more hmore) (fun r => ?_)
      cases r with
      | ok content => exact Ensures.pure (fun s hs => ⟨hs.1, trivial⟩)
      | error f => exact Ensures.pure (fun s hs => ⟨hs.1, fun h => hs.2 (skips_of_reopening h)⟩)
    exact (judged_tracks hread).bind (fun content _ _ _ => handOver_tracks p _ content _)
  · have hreject : p.transcribed.tree.wouldInclude e f.indexable = false := by simpa using hreject
    exact delete_tracks (.inl (.unwelcome (he.mono h₁) rfl hf hreject)) _

/-! ## Deciding about an entry -/

theorem ingest_tracks (he : Saw p calls e) :
    Tracks (Misses p e.id) calls (p.transcribed.ingest e (p.token e)) (Justified p e.id) := by
  simp only [Processor.ingest]
  cases hflag : (Version.ofToken (p.token e)).ambiguity with
  | forcedExclude => exact delete_tracks (.inl (.refused he rfl hflag)) _
  | forcedInclude =>
      exact (ask_tracks .content (fun _ => .content)).bind
        (fun content _ _ _ => handOver_tracks p _ content _)
  | dependsOnContent =>
      exact withCopy_tracks (fun path _ hmore => ingestCopy_tracks (he.mono hmore) _ path)

theorem decideEntry_tracks (he : Saw p calls e) (known : Option String) :
    Tracks (Misses p e.id) calls (p.transcribed.decideEntry e known) (Justified p e.id) := by
  rw [decideEntry_eq]
  refine .ite (fun hrules => ?_) (fun _ => .ite (fun _ => ?_) (fun _ =>
    .ite (fun _ => ?_) (fun _ => ?_)))
  · have hrules : p.transcribed.tree.mayInclude e = false := by simpa using hrules
    exact delete_tracks (.inl (.excluded he rfl hrules)) _
  · exact (children_tracks p e.id _).bind (fun _ _ _ _ => skip_tracks p e.id _ _ _)
  · exact skip_tracks p e.id _ _ _
  · exact ingest_tracks he

theorem decide_tracks (p : Processor (StateM σ)) (id : String) (known : Option String) :
    Tracks (Misses p id) [] (p.transcribed.decide id known) (Justified p id) := by
  refine (describe_tracks p id []).bind (fun found calls _ hfound => ?_)
  cases found with
  | none => exact delete_tracks (.inl (.gone hfound)) _
  | some e =>
      obtain ⟨rfl, he⟩ := hfound
      exact decideEntry_tracks he known

/-- What is deleted because it was found to be gone. -/
theorem deleteIfAbsent_justified (r : Except CrawlError Outcome) :
    Attempts (Upshot (fun o s => Justified p id o s.2) (fun e s => Misses p id e s.2) r)
      (p.transcribed.deleteIfAbsent r) (fun o s => Justified p id o s.2) (fun _ _ => True) := by
  unfold Processor.deleteIfAbsent
  split
  · rename_i id' reason
    refine ⟨fun s hs => ?_⟩
    obtain ⟨rfl, hprompted⟩ := hs id' reason rfl
    have hdelete := delete_tracks hprompted reason s.2 (List.Subset.refl _)
    exact (hdelete.imp (fun _ ht => ht) (fun _ _ ht => ht.2) (fun _ _ _ => trivial)).run s
      (List.Subset.refl _)
  · refine Ensures.pure (fun s hs => ?_)
    cases r with
    | ok o => exact hs
    | error e => trivial

theorem process_justified (p : Processor (StateM σ)) (id : String) (known : Option String) :
    Ensures (Holds []) (p.transcribed.process id known)
      (Upshot (fun o s => Justified p id o s.2) (fun _ _ => True)) := by
  have hdecide := (decide_tracks p id known [] (List.Subset.refl _)).imp (fun _ hs => hs)
    (fun _ _ hs => hs.2) (fun _ _ hs => hs.2)
  refine Ensures.bind hdecide (fun decision => ?_)
  refine Ensures.bind (deleteIfAbsent_justified decision) (fun result => ⟨fun s hs => ?_⟩)
  -- the record is one more call
  cases result with
  | ok o => exact Justified.mono hs (List.subset_append_left _ _)
  | error e => trivial

/-- **Every deletion has its reason in the transcript**: the store or the rules give one, or a call
that has nothing to do with the store has failed in a way that reads like one. -/
theorem process_deletes (p : Processor (StateM σ)) (id : String) (known : Option String) (s : σ) :
    let r := (p.transcribed.process id known).run (s, [])
    (p.process id known).run s = (r.1, r.2.1) ∧
      ∀ id' reason, r.1 = .ok (.delete id' reason) → id' = id ∧
        (Warranted p id r.2.2 ∨ ∃ c ∈ r.2.2, ∃ f, LocalFails id f c ∧ f.Skips) := by
  intro r
  refine ⟨transcribed_process p id known (s, []), ?_⟩
  intro id' reason hr
  have hjustified := (process_justified p id known).run (s, []) (List.nil_subset _)
  rw [show ((p.transcribed.process id known).run (s, [])).1 = _ from hr] at hjustified
  exact hjustified id' reason rfl

/-- A crawl that takes in everything, and whose receiver answers that it has no place for it. -/
def barredCrawl : Processor (StateM Unit) :=
  { ringCrawl with
    store := { ringCrawl.store with isContainer := fun _ => pure false }
    sink :=
      { ringCrawl.sink with
        ingest := fun _ _ => throw (.of (.system .notFound "no such index")) } }

/-- What is written down of an entry that the receiver cannot take in. -/
def barredRun : Except CrawlError Outcome × (Unit × List Call) :=
  (barredCrawl.transcribed.process "/x" none).run ((), [])

/-- Calls about an empty leaf that is there; what the store is asked it answers. -/
def Call.isPlain : Call → Bool
  | .present _ (.ok b) => b
  | .isContainer _ (.ok b) => !b
  | .modified _ (.ok t) => t == 0
  | .length _ (.ok n) => n == 0
  | .content _ (.ok c) => c.failure.isNone
  | .ingest .. => true
  | .delete .. => true
  | .record _ => true
  | _ => false

theorem barred_plain : ∀ c ∈ barredRun.2.2, c.isPlain = true :=
  List.all_eq_true.mp (by decide +kernel)

theorem barred_saw {e : Entry} (he : Saw barredCrawl barredRun.2.2 e) (hid : e.id = "/x") :
    e = ⟨"/x", .leaf, 0, 0, none, none⟩ := by
  have hkind : e.isContainer = false := by simpa [Call.isPlain] using barred_plain _ he.kind
  have hmodified : e.modified = 0 := by simpa [Call.isPlain] using barred_plain _ he.modified
  have hlength : e.length = 0 := by
    have hlength := he.length
    rw [if_pos hkind] at hlength
    simpa [Call.isPlain] using barred_plain _ hlength
  have haccess : e.access = none := he.access
  have hcontainer : e.containerAccess = none := he.containerAccess
  obtain ⟨id, kind, length, modified, access, containerAccess⟩ := e
  obtain rfl : kind = .leaf := by
    cases kind with
    | leaf => rfl
    | container => cases hkind
  dsimp only at *
  subst hid hlength hmodified haccess hcontainer
  rfl

/-- The store and the rules give no reason to delete the entry. -/
theorem barred_unwarranted : ¬Warranted barredCrawl "/x" barredRun.2.2 := by
  intro h
  cases h with
  | gone h => cases barred_plain _ h
  | excluded he hid hrules =>
      rw [barred_saw he hid] at hrules
      revert hrules
      decide +kernel
  | refused he hid hflag =>
      rw [barred_saw he hid] at hflag
      revert hflag
      decide +kernel
  | unwelcome he hid hf hrules => cases barred_plain _ hf
  | unreachable hc hf hskip =>
      have hplain := barred_plain _ hc
      cases hf with
      | reading h =>
          rw [Call.isPlain, h] at hplain
          cases hplain
      | _ => cases hplain

/-- The entry is deleted, and the transcript says which failure is to blame. -/
theorem process_deletes_barred :
    barredRun.1.toOption = some (.delete "/x" "[NotFound] no such index") ∧
      ∃ c ∈ barredRun.2.2, ∃ f, LocalFails "/x" f c ∧ f.Skips := by
  have hdelete : barredRun.1.toOption = some (.delete "/x" "[NotFound] no such index") := by
    decide +kernel
  refine ⟨hdelete, ?_⟩
  cases hr : barredRun.1 with
  | error e =>
      rw [hr] at hdelete
      cases hdelete
  | ok o =>
      rw [hr] at hdelete
      obtain rfl := Option.some.inj hdelete
      exact ((process_deletes barredCrawl "/x" none ()).2 _ _ hr).2.resolve_left barred_unwarranted

/-- **A failure of the receiver deletes a live entry**, for which neither the store nor the rules
give a reason. -/
theorem local_failure_deletes :
    ((barredCrawl.process "/x" none).run ()).1.toOption =
        some (.delete "/x" "[NotFound] no such index") ∧
      ¬Warranted barredCrawl "/x" ((barredCrawl.transcribed.process "/x" none).run ((), [])).2.2 :=
  ⟨by decide +kernel, barred_unwarranted⟩

end Harvest
