import Harvest.Crawl.Processor
import Harvest.Proofs.Ensures

/-!
# What processing an entry comes to

`Verdict` lists the outcomes that processing can answer, each with the answers of the store, the
rules and the fingerprint that lead to it. `process_spec` shows that there are no others, but for
the deletion of an entry that a failed call reports gone, and says in which state processing leaves
things: the receiver has been told of the outcome, or of nothing at all.

Nothing is assumed of the store, the receiver and the rest but what `Conduct` asks for, which is up
to whoever uses it: an invariant that holds while the receiver has been told nothing, what it
becomes when the receiver takes something in, and a mark that every failure leaves.
-/

namespace Harvest

variable {σ α : Type} {p : Processor (StateM σ)} {At : Option Outcome → σ → Prop} {F : σ → Prop}
  {inv : σ → Prop} {e : Entry} {id operation : String} {known : Option String}

/-! ## Answers -/

/-- The action, made in a state with `inv`, answers `a` and leaves the state `s'`. -/
def Leads (inv : σ → Prop) (act : Action (StateM σ) α) (a : α) (s' : σ) : Prop :=
  ∃ s, inv s ∧ act.run.run s = (.ok a, s')

/-- The action answers `a` in some state with `inv`. -/
def Answers (inv : σ → Prop) (act : Action (StateM σ) α) (a : α) : Prop := ∃ s', Leads inv act a s'

theorem leads_bind {β : Type} {act : Action (StateM σ) α} {next : α → Action (StateM σ) β} {b : β}
    {s' : σ} (h : Leads inv (act >>= next) b s') :
    ∃ a s₁, Leads inv act a s₁ ∧ (next a).run.run s₁ = (.ok b, s') := by
  obtain ⟨s, hs, hrun⟩ := h
  cases hr : act.run.run s with
  | mk r s₁ =>
      rw [ExceptT.run_bind, StateT.run_bind, hr] at hrun
      cases r with
      | ok a => exact ⟨a, s₁, ⟨s, hs, hr⟩, hrun⟩
      | error e => cases hrun

/-- The store answers what the entry holds; what was not asked for has its default. -/
structure Described (p : Processor (StateM σ)) (inv : σ → Prop) (e : Entry) : Prop where
  present : Answers inv (p.store.present e.id) true
  kind : Answers inv (p.store.isContainer e.id) e.isContainer
  modified : Answers inv (p.store.modified e.id) e.modified
  length : if e.isContainer = true then e.length = 0 else Answers inv (p.store.length e.id) e.length
  access : if p.encoder.entryAccess = .native then Answers inv (p.store.access e.id) e.access
    else e.access = none
  containerAccess : if p.encoder.containerAccess = .native then
      Answers inv (p.store.containerAccess e.id) e.containerAccess
    else e.containerAccess = none

/-- The version token of an entry under the settings of the processor. -/
def Processor.token (p : Processor (StateM σ)) (e : Entry) : String :=
  p.encoder.token p.tree p.store.idStart e

/-- The fingerprint is that of a copy that has just been made of the content. -/
def Fingerprinted (p : Processor (StateM σ)) (inv : σ → Prop) (id : String) (f : Fingerprint) :
    Prop :=
  ∃ path s, Leads inv (do p.scratch.fill path (← p.store.content id)) () s ∧
    ((p.fingerprinter path).run.run s).1 = .ok f

/-- The outcomes of an entry that no failure interferes with. -/
inductive Verdict (p : Processor (StateM σ)) (inv : σ → Prop) (id : String)
    (known : Option String) : Outcome → Prop where
  /-- There is no such entry. -/
  | gone (habsent : Answers inv (p.store.present id) false) :
      Verdict p inv id known (.delete id "no longer exists")
  /-- The rules have no use for it, whatever its content. -/
  | excluded {e : Entry} (he : Described p inv e) (hid : e.id = id)
      (hrules : p.tree.mayInclude e = false) :
      Verdict p inv id known (.delete id "excluded by rules")
  /-- It is a container. -/
  | container {e : Entry} {listing : Listing} (he : Described p inv e) (hid : e.id = id)
      (hrules : p.tree.mayInclude e = true) (hkind : e.isContainer = true)
      (hlisting : Answers inv (p.store.children id) listing) (hcomplete : listing.failure = none) :
      Verdict p inv id known (.skip id (.container listing.children) (p.token e))
  /-- It is what it was. -/
  | unchanged {e : Entry} (he : Described p inv e) (hid : e.id = id)
      (hrules : p.tree.mayInclude e = true) (hkind : e.isContainer = false)
      (hknown : known = some (p.token e)) :
      Verdict p inv id known (.skip id .unchanged (p.token e))
  /-- The rules have no use for it after all. -/
  | refused {e : Entry} (he : Described p inv e) (hid : e.id = id)
      (hrules : p.tree.mayInclude e = true) (hkind : e.isContainer = false)
      (hnew : known ≠ some (p.token e))
      (hflag : (Version.ofToken (p.token e)).ambiguity = .forcedExclude) :
      Verdict p inv id known (.delete id "excluded by rules")
  /-- It is handed over whatever its content. -/
  | accepted {e : Entry} {bytes : Nat} (he : Described p inv e) (hid : e.id = id)
      (hrules : p.tree.mayInclude e = true) (hkind : e.isContainer = false)
      (hnew : known ≠ some (p.token e))
      (hflag : (Version.ofToken (p.token e)).ambiguity = .forcedInclude) :
      Verdict p inv id known (.ingest id (p.token e) bytes)
  /-- It is handed over for its content. -/
  | welcome {e : Entry} {f : Fingerprint} {bytes : Nat} (he : Described p inv e) (hid : e.id = id)
      (hrules : p.tree.mayInclude e = true) (hkind : e.isContainer = false)
      (hnew : known ≠ some (p.token e))
      (hflag : (Version.ofToken (p.token e)).ambiguity = .dependsOnContent)
      (hf : Fingerprinted p inv id f) (haccept : p.tree.wouldInclude e f.indexable = true) :
      Verdict p inv id known (.ingest id (p.token e) bytes)
  /-- It is turned down for its content. -/
  | unwelcome {e : Entry} {f : Fingerprint} (he : Described p inv e) (hid : e.id = id)
      (hrules : p.tree.mayInclude e = true) (hkind : e.isContainer = false)
      (hnew : known ≠ some (p.token e))
      (hflag : (Version.ofToken (p.token e)).ambiguity = .dependsOnContent)
      (hf : Fingerprinted p inv id f) (hreject : p.tree.wouldInclude e f.indexable = false) :
      Verdict p inv id known (.delete id "excluded after fingerprinting")

/-! ## Conduct -/

/-- A call keeps the invariant, and leaves the mark if it fails. -/
def Quiet (inv F : σ → Prop) (act : Action (StateM σ) α) : Prop :=
  Attempts inv act (fun _ => inv) (fun _ s => inv s ∧ F s)

/-- What cannot fail leaves everything as it is. -/
structure Steady (At : Option Outcome → σ → Prop) (F : σ → Prop) (act : StateM σ α) : Prop where
  stage : ∀ told, Ensures (At told) act (fun _ => At told)
  mark : Ensures F act (fun _ => F)

/-- How the calls of a processor deal with the state. `At told` holds when the receiver was last
told `told`, and `F` once something has failed. -/
structure Conduct (p : Processor (StateM σ)) (At : Option Outcome → σ → Prop) (F : σ → Prop) :
    Prop where
  present : ∀ id, Quiet (At none) F (p.store.present id)
  isContainer : ∀ id, Quiet (At none) F (p.store.isContainer id)
  modified : ∀ id, Quiet (At none) F (p.store.modified id)
  length : ∀ id, Quiet (At none) F (p.store.length id)
  access : ∀ id, Quiet (At none) F (p.store.access id)
  containerAccess : ∀ id, Quiet (At none) F (p.store.containerAccess id)
  children : ∀ id, Attempts (At none) (p.store.children id)
    (fun listing s => At none s ∧ (listing.failure ≠ none → F s)) (fun _ s => At none s ∧ F s)
  content : ∀ id, Attempts (At none) (p.store.content id)
    (fun content s => At none s ∧ (content.failure ≠ none → F s)) (fun _ s => At none s ∧ F s)
  create : Quiet (At none) F p.scratch.create
  clear : ∀ path, Quiet (At none) F (p.scratch.clear path)
  append : ∀ path piece, Quiet (At none) F (p.scratch.append path piece)
  read : ∀ path, Quiet (At none) F (p.scratch.read path)
  discard : ∀ path, Steady At F (p.scratch.discard path)
  fingerprinter : ∀ path, Quiet (At none) F (p.fingerprinter path)
  /-- A copy that is made does not undo a failure. -/
  clear_mark : ∀ path, Ensures F (p.scratch.clear path).run (fun _ => F)
  append_mark : ∀ path piece, Ensures F (p.scratch.append path piece).run (fun _ => F)
  ingest : ∀ request content, Attempts (At none) (p.sink.ingest request content)
    (fun bytes => At (some (.ingest request.id request.token bytes))) (fun _ s => At none s ∧ F s)
  delete : ∀ id reason, Attempts (At none) (p.sink.delete id)
    (fun _ => At (some (.delete id reason))) (fun _ s => At none s ∧ F s)
  delete_mark : ∀ id, Ensures F (p.sink.delete id).run (fun _ => F)
  skip : ∀ id reason token, Attempts (At none) (p.sink.skip id reason)
    (fun _ => At (some (.skip id reason token))) (fun _ s => At none s ∧ F s)
  record : ∀ activity, Steady At F (p.sink.record activity)
  now : Steady At F p.monitor.now
  warn : ∀ w, Steady At F (p.monitor.warn w)
  pause : ∀ delay, Steady At F (p.monitor.pause delay)
  isCancelled : Ensures (At none) p.monitor.isCancelled
    (fun cancelled s => At none s ∧ (cancelled = true → F s))

theorem Steady.both {act : StateM σ α} (h : Steady At F act) (told : Option Outcome) :
    Ensures (fun s => At told s ∧ F s) act (fun _ s => At told s ∧ F s) :=
  (h.stage told).and h.mark

/-- The receiver does not matter, nor whether anything fails. -/
abbrev Keeping (inv : σ → Prop) : Option Outcome → σ → Prop := fun _ => inv

/-- A call that keeps the invariant, where failures leave no mark. -/
theorem kept_attempts {act : Action (StateM σ) α} (h : Ensures inv act.run (fun _ => inv))
    (breaks : α → Prop) :
    Attempts inv act (fun a s => inv s ∧ (breaks a → True)) (fun _ s => inv s ∧ True) := by
  refine h.imp (fun _ hs => hs) (fun r s hs => ?_)
  cases r with
  | ok a => exact ⟨hs, fun _ => trivial⟩
  | error f => exact ⟨hs, trivial⟩

theorem kept_quiet {act : Action (StateM σ) α} (h : Ensures inv act.run (fun _ => inv)) :
    Quiet inv (fun _ => True) act :=
  (kept_attempts h (fun _ => True)).imp (fun _ hs => hs) (fun _ _ hs => hs.1) (fun _ _ hs => hs)

theorem kept_mark (act : StateM σ α) : Ensures (fun _ => True) act (fun _ _ => True) :=
  ⟨fun _ _ => trivial⟩

theorem kept_steady {act : StateM σ α} (h : Ensures inv act (fun _ => inv)) :
    Steady (Keeping inv) (fun _ => True) act := ⟨fun _ => h, kept_mark act⟩

/-- Whatever the calls do, they keep what is always true. -/
theorem conduct_trivial (p : Processor (StateM σ)) :
    Conduct p (Keeping (fun _ => True)) (fun _ => True) where
  present := fun _ => kept_quiet (kept_mark _)
  isContainer := fun _ => kept_quiet (kept_mark _)
  modified := fun _ => kept_quiet (kept_mark _)
  length := fun _ => kept_quiet (kept_mark _)
  access := fun _ => kept_quiet (kept_mark _)
  containerAccess := fun _ => kept_quiet (kept_mark _)
  children := fun _ => kept_attempts (kept_mark _) _
  content := fun _ => kept_attempts (kept_mark _) _
  create := kept_quiet (kept_mark _)
  clear := fun _ => kept_quiet (kept_mark _)
  append := fun _ _ => kept_quiet (kept_mark _)
  read := fun _ => kept_quiet (kept_mark _)
  discard := fun _ => kept_steady (kept_mark _)
  fingerprinter := fun _ => kept_quiet (kept_mark _)
  clear_mark := fun _ => kept_mark _
  append_mark := fun _ _ => kept_mark _
  ingest := fun _ _ => kept_quiet (kept_mark _)
  delete := fun _ _ => kept_quiet (kept_mark _)
  delete_mark := fun _ => kept_mark _
  skip := fun _ _ _ => kept_quiet (kept_mark _)
  record := fun _ => kept_steady (kept_mark _)
  now := kept_steady (kept_mark _)
  warn := fun _ => kept_steady (kept_mark _)
  pause := fun _ => kept_steady (kept_mark _)
  isCancelled := ⟨fun _ _ => ⟨trivial, fun _ => trivial⟩⟩

/-! ## Single calls -/

/-- A call under the policy answers what one of its tries answers. -/
theorem tryFrom_spec (h : Conduct p At F) {act : Action (StateM σ) α}
    (hact : Quiet (At none) F act) :
    ∀ (left attempt : Nat) (last : Option Streak),
      Attempts (At none) (p.retrying.tryFrom operation act left attempt last)
        (fun a s => At none s ∧ Leads (At none) act a s) (fun _ s => At none s ∧ F s)
  | left, attempt, last => by
      rw [Retrying.tryFrom]
      refine h.isCancelled.bind (fun cancelled => ?_)
      refine Ensures.ite (fun hc => Ensures.pure (fun s hs => ⟨hs.1, hs.2 hc⟩)) (fun _ => ?_)
      -- the answer is kept together with the state in which the call was made
      have hcall : Attempts (fun s => At none s ∧ (cancelled = true → F s)) act
          (fun a s => At none s ∧ Leads (At none) act a s) (fun _ s => At none s ∧ F s) := by
        refine ⟨?_⟩
        intro s h0
        obtain ⟨hs, _⟩ := h0
        have hquiet := hact.run s hs
        cases hr : act.run.run s with
        | mk r s' =>
            rw [hr] at hquiet
            cases r with
            | ok a => exact ⟨hquiet, s, hs, hr⟩
            | error f => exact hquiet
      refine Ensures.bind hcall (fun r => ?_)
      cases r with
      | ok a => exact Ensures.pure (fun s hs => hs)
      | error f =>
          refine Ensures.ite (fun _ => Ensures.pure (fun s hs => hs)) (fun _ => ?_)
          cases left with
          | zero => exact Ensures.pure (fun s hs => hs)
          | succ left =>
              refine Ensures.ite (fun _ => Ensures.pure (fun s hs => hs)) (fun _ => ?_)
              refine ((h.warn _).both none).bind (fun _ => ?_)
              have hwait : Ensures (fun s => At none s ∧ F s)
                  (p.retrying.wait (p.retrying.policy.backoff attempt))
                  (fun _ s => At none s ∧ F s) :=
                Ensures.ite (fun _ => Ensures.pure (fun s hs => hs))
                  (fun _ => (h.pause _).both none)
              refine hwait.bind (fun _ => ?_)
              refine Ensures.ite (fun _ => Ensures.pure (fun s hs => hs)) (fun _ => ?_)
              exact Ensures.imp (tryFrom_spec h hact left _ _) (fun s hs => hs.1) (fun _ _ hs => hs)

/-- A failure is blamed on no other entry. -/
def Blames (id : String) (e : CrawlError) : Prop := ∀ id' reason, e = .absent id' reason → id' = id

theorem blames_ofFailure (now : Moment) (operation id : String) (f : Failure) :
    Blames id (.ofFailure now operation id f) := by
  intro id' reason h
  unfold CrawlError.ofFailure at h
  dsimp only at h
  split at h
  · cases h
  · cases h
    rfl
  · cases h
  · cases h

/-- Processing fails with everything as it was, apart from the mark. -/
def Mishap (At : Option Outcome → σ → Prop) (F : σ → Prop) (id : String) (e : CrawlError) (s : σ) :
    Prop := (At none s ∧ F s) ∧ Blames id e

theorem judged_spec (h : Conduct p At F) {act : Action (StateM σ) α} {pre : σ → Prop}
    {good : α → σ → Prop} (hact : Attempts pre act good (fun _ s => At none s ∧ F s)) :
    Attempts pre (p.judged operation id act) good (Mishap At F id) := by
  refine Ensures.bind hact (fun r => ?_)
  cases r with
  | ok a => exact Ensures.pure (fun s hs => hs)
  | error f =>
      refine (h.now.both none).bind (fun now => Ensures.pure (fun s hs => ⟨hs, ?_⟩))
      exact blames_ofFailure now operation id f

theorem call_spec (h : Conduct p At F) (c : StoreCall) {act : Action (StateM σ) α}
    (hact : Quiet (At none) F act) :
    Attempts (At none) (p.call c id act) (fun a s => At none s ∧ Leads (At none) act a s)
      (Mishap At F id) :=
  judged_spec h (tryFrom_spec h hact _ _ _)

theorem call_answers (h : Conduct p At F) (c : StoreCall) {act : Action (StateM σ) α}
    (hact : Quiet (At none) F act) :
    Attempts (At none) (p.call c id act) (fun a s => At none s ∧ Answers (At none) act a)
      (Mishap At F id) :=
  (call_spec h c hact).imp (fun _ hs => hs) (fun _ s hs => ⟨hs.1, s, hs.2⟩) (fun _ _ hs => hs)

/-! ## Looking at an entry -/

/-- What is asked for if `c` holds is answered then. -/
theorem asked_spec (h : Conduct p At F) (call : StoreCall) {act : Action (StateM σ) (Option α)}
    (hact : Quiet (At none) F act) {c : Prop} [Decidable c] (hc : c) :
    Attempts (At none) (p.call call id act)
      (fun a s => At none s ∧ if c then Answers (At none) act a else a = none)
      (Mishap At F id) := by
  simp only [if_pos hc]
  exact call_answers h call hact

theorem unasked_spec {act : Action (StateM σ) (Option α)} {c : Prop} [Decidable c] (hc : ¬c) :
    Attempts (At none) (pure none : Processing (StateM σ) (Option α))
      (fun a s => At none s ∧ if c then Answers (At none) act a else a = none)
      (Mishap At F id) :=
  .pure (fun s hs => ⟨hs, by rw [if_neg hc]⟩)

theorem describe_spec (h : Conduct p At F) (id : String) :
    Attempts (At none) (p.describe id)
      (fun found s => At none s ∧ match found with
        | none => Answers (At none) (p.store.present id) false
        | some e => e.id = id ∧ Described p (At none) e)
      (Mishap At F id) := by
  unfold Processor.describe
  refine (call_answers h .present (h.present id)).bind (fun there => .given (fun hthere => ?_))
  refine .ite (fun hc => .pure (fun s hs => ⟨hs, ?_⟩)) (fun hc => ?_)
  · have hfalse : there = false := by simpa using hc
    exact hfalse ▸ hthere
  have htrue : there = true := by simpa using hc
  refine (call_answers h .isContainer (h.isContainer id)).bind
    (fun isContainer => .given (fun hkind => ?_))
  refine (call_answers h .modified (h.modified id)).bind
    (fun modified => .given (fun hmodified => ?_))
  -- a container is not asked for its length
  have hzero : isContainer = true → Attempts (At none) (pure 0 : Processing (StateM σ) UInt64)
      (fun length s => At none s ∧
        if isContainer = true then length = 0 else Answers (At none) (p.store.length id) length)
      (Mishap At F id) := fun hc => .pure (fun s hs => ⟨hs, by rw [if_pos hc]⟩)
  refine .iteBind hzero
    (fun hc => by simp only [if_neg hc]; exact call_answers h .length (h.length id))
    (fun length => .given (fun hlength => ?_))
  refine .iteBind (asked_spec h .access (h.access id)) (fun hc => unasked_spec hc)
    (fun access => .given (fun haccess => ?_))
  refine .iteBind (asked_spec h .containerAccess (h.containerAccess id)) (fun hc => unasked_spec hc)
    (fun containerAccess => .given (fun hcontainerAccess => ?_))
  refine .pure (fun s hs => ⟨hs, rfl, ?_⟩)
  have hsame : (⟨id, if isContainer then .container else .leaf, length, modified, access,
      containerAccess⟩ : Entry).isContainer = isContainer := by
    cases isContainer <;> rfl
  refine ⟨htrue ▸ hthere, ?_, hmodified, ?_, haccess, hcontainerAccess⟩
  · rw [hsame]
    exact hkind
  · rw [hsame]
    exact hlength

theorem children_spec (h : Conduct p At F) (id : String) :
    Attempts (At none) (p.children id)
      (fun children s => At none s ∧ ∃ listing, Answers (At none) (p.store.children id) listing ∧
        listing.failure = none ∧ listing.children = children)
      (Mishap At F id) := by
  unfold Processor.children
  refine (call_answers h .children ?_).imp (fun _ hs => hs) ?_ (fun _ _ hs => hs)
  · refine (h.children id).bind (fun listing => ?_)
    cases hf : listing.failure with
    | some f => exact .throw (fun s hs => ⟨hs.1, hs.2 (fun h' => by cases h')⟩)
    | none => exact .pure (fun s hs => hs.1)
  intro children s h0
  obtain ⟨hs, s', hleads⟩ := h0
  refine ⟨hs, ?_⟩
  -- a listing that is answered did not break off
  obtain ⟨listing, s₁, hlisting, hrest⟩ := leads_bind hleads
  cases hf : listing.failure with
  | some f =>
      rw [hf] at hrest
      cases hrest
  | none =>
      rw [hf] at hrest
      cases hrest
      exact ⟨listing, ⟨_, hlisting⟩, hf, rfl⟩

/-! ## Telling the receiver -/

/-- Processing has come to the outcome and told the receiver of it. The outcome is a verdict, unless
a failed call reported the entry gone. -/
def Came (p : Processor (StateM σ)) (At : Option Outcome → σ → Prop) (F : σ → Prop) (id : String)
    (known : Option String) (o : Outcome) (s : σ) : Prop :=
  At (some o) s ∧ (Verdict p (At none) id known o ∨ ((∃ reason, o = .delete id reason) ∧ F s))

theorem delete_came (h : Conduct p At F) {reason : String}
    (hv : Verdict p (At none) id known (.delete id reason)) :
    Attempts (At none) (p.delete id reason) (Came p At F id known) (Mishap At F id) :=
  (judged_spec h (h.delete id reason)).bind (fun _ => .pure (fun _ hs => ⟨hs, Or.inl hv⟩))

theorem skip_came (h : Conduct p At F) {reason : SkipReason} {token : String}
    (hv : Verdict p (At none) id known (.skip id reason token)) :
    Attempts (At none) (p.skip id reason token) (Came p At F id known) (Mishap At F id) :=
  (judged_spec h (h.skip id reason token)).bind (fun _ => .pure (fun _ hs => ⟨hs, Or.inl hv⟩))

theorem handOver_came (h : Conduct p At F) {request : Delivery} {content : Content}
    (hv : ∀ bytes, Verdict p (At none) request.id known (.ingest request.id request.token bytes)) :
    Attempts (At none) (p.handOver request content) (Came p At F request.id known)
      (Mishap At F request.id) :=
  (judged_spec h (h.ingest request content)).bind
    (fun bytes => .pure (fun _ hs => ⟨hs, Or.inl (hv bytes)⟩))

/-! ## Scratch copies -/

theorem Quiet.promise {act : Action (StateM σ) α} (h : Quiet inv F act)
    (hmark : Ensures F act.run (fun _ => F)) (c : Prop) :
    Attempts (fun s => inv s ∧ (c → F s)) act (fun _ s => inv s ∧ (c → F s))
      (fun _ s => inv s ∧ F s) := by
  refine ⟨?_⟩
  intro s h0
  obtain ⟨hs, hc⟩ := h0
  have hquiet := h.run s hs
  have hF : c → F (act.run.run s).2 := fun hc' => hmark.run s (hc hc')
  generalize act.run.run s = r at hquiet hF
  obtain ⟨r, s'⟩ := r
  cases r with
  | ok a => exact ⟨hquiet, hF⟩
  | error f => exact hquiet

theorem appendAll_promise (h : Conduct p At F) (path : String) (c : Prop) :
    ∀ pieces : List ByteArray, Attempts (fun s => At none s ∧ (c → F s))
      (p.scratch.appendAll path pieces) (fun _ s => At none s ∧ (c → F s))
      (fun _ s => At none s ∧ F s)
  | [] => .pure (fun _ hs => hs)
  | piece :: pieces =>
      ((h.append path piece).promise (h.append_mark path piece) c).bind
        (fun _ => appendAll_promise h path c pieces)

/-- Content that breaks off does not make a copy. -/
theorem copy_quiet (h : Conduct p At F) (path id : String) :
    Quiet (At none) F (do p.scratch.fill path (← p.store.content id)) := by
  refine (h.content id).bind (fun content => ?_)
  refine ((h.clear path).promise (h.clear_mark path) _).bind (fun _ => ?_)
  refine (appendAll_promise h path _ content.pieces).bind (fun _ => ?_)
  cases hf : content.failure with
  | some f => exact .throw (fun s hs => ⟨hs.1, hs.2 (fun h' => by cases h')⟩)
  | none => exact .pure (fun s hs => hs.1)

/-- What cannot fail leaves the state as processing left it. -/
theorem Steady.settled {act : StateM σ α} (h : Steady At F act) (r : Except CrawlError Outcome) :
    Ensures (Upshot (Came p At F id known) (Mishap At F id) r) act
      (fun _ => Upshot (Came p At F id known) (Mishap At F id) r) := by
  cases r with
  | ok o =>
      refine ⟨?_⟩
      intro s h0
      obtain ⟨hs, hv⟩ := h0
      refine ⟨(h.stage (some o)).run s hs, ?_⟩
      rcases hv with hv | ⟨hdelete, hF⟩
      · exact Or.inl hv
      · exact Or.inr ⟨hdelete, h.mark.run s hF⟩
  | error e => exact ⟨fun s hs => ⟨(h.both none).run s hs.1, hs.2⟩⟩

/-- Work with a copy starts where the copy has just been made. -/
theorem withCopy_spec (h : Conduct p At F) {work : String → Processing (StateM σ) Outcome}
    (hwork : ∀ path, Attempts
      (fun s => At none s ∧ Leads (At none) (do p.scratch.fill path (← p.store.content id)) () s)
      (work path) (Came p At F id known) (Mishap At F id)) :
    Attempts (At none) (p.withCopy id work) (Came p At F id known) (Mishap At F id) := by
  have hcreate : Ensures (At none) p.scratch.create.run _ := h.create
  refine hcreate.bind (fun r => ?_)
  cases r with
  | error f =>
      exact Ensures.pure (fun s hs => ⟨hs, fun _ _ h' => by cases h'⟩)
  | ok path =>
      have hfetch : Attempts (At none)
          (p.call .content id (do p.scratch.fill path (← p.store.content id))) _ (Mishap At F id) :=
        call_spec h .content (copy_quiet h path id)
      refine Ensures.bind (hfetch.bind (fun _ => hwork path)) (fun r => ?_)
      exact ((h.discard path).settled r).bind (fun _ => Ensures.pure (fun s hs => hs))

/-! ## Deciding about an entry -/

theorem ingestCopy_spec (h : Conduct p At F) (he : Described p (At none) e)
    (hrules : p.tree.mayInclude e = true) (hkind : e.isContainer = false)
    (hnew : known ≠ some (p.token e))
    (hflag : (Version.ofToken (p.token e)).ambiguity = .dependsOnContent) (path : String) :
    Attempts
      (fun s => At none s ∧ Leads (At none) (do p.scratch.fill path (← p.store.content e.id)) () s)
      (p.ingestCopy e (p.token e) path) (Came p At F e.id known) (Mishap At F e.id) := by
  have hprint : Attempts
      (fun s => At none s ∧ Leads (At none) (do p.scratch.fill path (← p.store.content e.id)) () s)
      (p.fingerprinter path) (fun f s => At none s ∧ Fingerprinted p (At none) e.id f)
      (fun _ s => At none s ∧ F s) := by
    refine ⟨?_⟩
    intro s h0
    obtain ⟨hs, hcopy⟩ := h0
    have hquiet := (h.fingerprinter path).run s hs
    have hf : ∀ f, ((p.fingerprinter path).run.run s).1 = .ok f →
        Fingerprinted p (At none) e.id f := fun f hf => ⟨path, s, hcopy, hf⟩
    generalize (p.fingerprinter path).run.run s = r at hquiet hf
    obtain ⟨r, s'⟩ := r
    cases r with
    | ok f => exact ⟨hquiet, hf f rfl⟩
    | error f => exact hquiet
  refine (judged_spec h hprint).bind (fun f => .given (fun hf => ?_))
  refine .ite (fun haccept => ?_) (fun hreject => ?_)
  · have hread : Quiet (At none) F
        (Action.within "Failed to reopen scratch copy" (p.scratch.read path)) := by
      have hread : Ensures (At none) (p.scratch.read path).run _ := h.read path
      refine hread.bind (fun r => ?_)
      cases r with
      | ok content => exact Ensures.pure (fun s hs => hs)
      | error f => exact Ensures.pure (fun s hs => hs)
    refine (judged_spec h hread).bind (fun content => ?_)
    exact handOver_came h
      (fun bytes => .welcome he rfl hrules hkind hnew hflag hf haccept)
  · have hreject : p.tree.wouldInclude e f.indexable = false := by simpa using hreject
    exact delete_came h (.unwelcome he rfl hrules hkind hnew hflag hf hreject)

theorem ingest_spec (h : Conduct p At F) (he : Described p (At none) e)
    (hrules : p.tree.mayInclude e = true) (hkind : e.isContainer = false)
    (hnew : known ≠ some (p.token e)) :
    Attempts (At none) (p.ingest e (p.token e)) (Came p At F e.id known) (Mishap At F e.id) := by
  simp only [Processor.ingest]
  cases hflag : (Version.ofToken (p.token e)).ambiguity with
  | forcedExclude => exact delete_came h (.refused he rfl hrules hkind hnew hflag)
  | forcedInclude =>
      have hcontent : Quiet (At none) F (p.store.content e.id) :=
        (h.content e.id).imp (fun _ hs => hs) (fun _ _ hs => hs.1) (fun _ _ hs => hs)
      refine (call_answers h .content hcontent).bind (fun content => .given (fun _ => ?_))
      exact handOver_came h (fun bytes => .accepted he rfl hrules hkind hnew hflag)
  | dependsOnContent =>
      exact withCopy_spec h (ingestCopy_spec h he hrules hkind hnew hflag)

theorem decideEntry_eq : p.decideEntry e known =
    if !p.tree.mayInclude e then p.delete e.id "excluded by rules"
    else if e.isContainer then do
      let children ← p.children e.id
      p.skip e.id (.container children) (p.token e)
    else if known = some (p.token e) then p.skip e.id .unchanged (p.token e)
    else p.ingest e (p.token e) := rfl

theorem decideEntry_spec (h : Conduct p At F) (he : Described p (At none) e) :
    Attempts (At none) (p.decideEntry e known) (Came p At F e.id known) (Mishap At F e.id) := by
  rw [decideEntry_eq]
  refine .ite (fun hrules => ?_) (fun hrules => ?_)
  · exact delete_came h (.excluded he rfl (by simpa using hrules))
  have hrules : p.tree.mayInclude e = true := by simpa using hrules
  refine .ite (fun hkind => ?_) (fun hkind => .ite (fun hknown => ?_) (fun hnew => ?_))
  · refine (children_spec h e.id).bind (fun children => .given (fun hchildren => ?_))
    obtain ⟨listing, hlisting, hcomplete, rfl⟩ := hchildren
    exact skip_came h (.container he rfl hrules hkind hlisting hcomplete)
  · exact skip_came h (.unchanged he rfl hrules (by simpa using hkind) hknown)
  · have hkind : e.isContainer = false := by simpa using hkind
    exact ingest_spec h he hrules hkind hnew

theorem decide_spec (h : Conduct p At F) (id : String) (known : Option String) :
    Attempts (At none) (p.decide id known) (Came p At F id known) (Mishap At F id) := by
  refine (describe_spec h id).bind (fun found => .given (fun hfound => ?_))
  cases found with
  | none => exact delete_came h (.gone hfound)
  | some e =>
      obtain ⟨rfl, he⟩ := hfound
      exact decideEntry_spec h he

/-! ## The whole of it -/

theorem deleteIfAbsent_spec (h : Conduct p At F) (r : Except CrawlError Outcome) :
    Attempts (Upshot (Came p At F id known) (Mishap At F id) r) (p.deleteIfAbsent r)
      (Came p At F id known) (Mishap At F id) := by
  unfold Processor.deleteIfAbsent
  split
  · rename_i id' reason
    refine ⟨?_⟩
    intro s h0
    obtain ⟨hs, hblame⟩ := h0
    obtain rfl := hblame id' reason rfl
    -- the receiver is told although a call has failed before
    have hdelete : Attempts (fun s => At none s ∧ F s) (p.sink.delete id')
        (fun _ s => At (some (.delete id' reason)) s ∧ F s) (fun _ s => At none s ∧ F s) := by
      refine ⟨?_⟩
      intro s h0
      obtain ⟨hs, hF⟩ := h0
      have htold := (h.delete id' reason).run s hs
      have hF := (h.delete_mark id').run s hF
      generalize (p.sink.delete id').run.run s = r at htold hF
      obtain ⟨r, s'⟩ := r
      cases r with
      | ok _ => exact ⟨htold, hF⟩
      | error f => exact htold
    have hcame : Attempts (fun s => At none s ∧ F s) (p.delete id' reason)
        (Came p At F id' known) (Mishap At F id') :=
      (judged_spec h hdelete).bind
        (fun _ => .pure (fun s hs => ⟨hs.1, Or.inr ⟨⟨reason, rfl⟩, hs.2⟩⟩))
    exact hcame.run s hs
  · exact Ensures.pure (fun s hs => hs)

/-- **What processing comes to.** It answers a verdict about the entry, or its deletion if a call
failed that found it gone, and the receiver has been told just that. If it fails, something has
failed, and the receiver has been told nothing. -/
theorem process_spec (h : Conduct p At F) (id : String) (known : Option String) :
    Ensures (At none) (p.process id known) (Upshot (Came p At F id known) (Mishap At F id)) := by
  refine Ensures.bind (decide_spec h id known) (fun decision => ?_)
  refine Ensures.bind (deleteIfAbsent_spec h decision) (fun r => ?_)
  refine (h.now.settled r).bind (fun now => ?_)
  exact ((h.record _).settled r).bind (fun _ => Ensures.pure (fun s hs => hs))

/-- The receiver has been told to delete an entry that is retired. -/
def Retired (At : Option Outcome → σ → Prop) (id : String) (o : Outcome) (s : σ) : Prop :=
  At (some o) s ∧ o = .delete id "no longer reachable from seeds"

theorem Steady.retired {act : StateM σ α} (h : Steady At F act) (r : Except CrawlError Outcome) :
    Ensures (Upshot (Retired At id) (Mishap At F id) r) act
      (fun _ => Upshot (Retired At id) (Mishap At F id) r) := by
  cases r with
  | ok o => exact ⟨fun s hs => ⟨(h.stage (some o)).run s hs.1, hs.2⟩⟩
  | error e => exact ⟨fun s hs => ⟨(h.both none).run s hs.1, hs.2⟩⟩

/-- Retiring an entry tells the receiver to delete it, or nothing. -/
theorem retire_spec (h : Conduct p At F) (id : String) :
    Ensures (At none) (p.retire id) (Upshot (Retired At id) (Mishap At F id)) := by
  have hdelete : Attempts (At none) (p.delete id "no longer reachable from seeds")
      (Retired At id) (Mishap At F id) :=
    (judged_spec h (h.delete id _)).bind (fun _ => .pure (fun s hs => ⟨hs, rfl⟩))
  refine Ensures.bind hdelete (fun r => ?_)
  refine Ensures.ite (fun _ => ?_) (fun _ => Ensures.pure (fun s hs => hs))
  refine (h.now.retired r).bind (fun now => ?_)
  exact ((h.record _).retired r).bind (fun _ => Ensures.pure (fun s hs => hs))

end Harvest
