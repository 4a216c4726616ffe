import Harvest.Proofs.Processing

/-!
# Processors side by side

Two processors on different states go through an entry in step if every call of the one comes to
what the same call of the other comes to, and related states stay related (`Attends`). Then
processing the entry comes to the same in both (`process_akin`).

Two things may differ between them. A copy may lie at another path, so the relation speaks of the
two copies at work. And the clock may show another time, which enters into nothing but the window of
an entry that has to wait (`Timed`).
-/

namespace Harvest

variable {σ τ α β ε : Type}

/-! ## Actions side by side -/

/-- From related states with `pre`, the two actions come to results and states with `post`. -/
structure Relates (pre : τ → σ → Prop) (act' : StateM τ α) (act : StateM σ α)
    (post : α → α → τ → σ → Prop) : Prop where
  run : ∀ t s, pre t s → post (act'.run t).1 (act.run s).1 (act'.run t).2 (act.run s).2

/-- The two actions come to the same result, and related states stay related. -/
def Agree (R : τ → σ → Prop) (act' : StateM τ α) (act : StateM σ α) : Prop :=
  Relates R act' act (fun a' a t s => a' = a ∧ R t s)

/-- The same success, or failures that count as the same. -/
def Alike (same : ε → ε → Prop) : Except ε α → Except ε α → Prop
  | .ok a', .ok a => a' = a
  | .error e', .error e => same e' e
  | _, _ => False

/-- The two actions come to results that are alike, and related states stay related. -/
def Akin (same : ε → ε → Prop) (R : τ → σ → Prop) (act' : ExceptT ε (StateM τ) α)
    (act : ExceptT ε (StateM σ) α) : Prop :=
  Relates R act'.run act.run (fun r' r t s => Alike same r' r ∧ R t s)

section Rules

variable {pre : τ → σ → Prop} {R : τ → σ → Prop} {same : ε → ε → Prop}

theorem Relates.bind {act' : StateM τ α} {act : StateM σ α} {next' : α → StateM τ β}
    {next : α → StateM σ β} {mid : α → α → τ → σ → Prop} {post : β → β → τ → σ → Prop}
    (hact : Relates pre act' act mid)
    (hnext : ∀ a' a, Relates (mid a' a) (next' a') (next a) post) :
    Relates pre (act' >>= next') (act >>= next) post :=
  ⟨fun t s h => (hnext _ _).run _ _ (hact.run t s h)⟩

/-- What does not depend on the states is known before the actions. -/
theorem Relates.given {act' : StateM τ α} {act : StateM σ α} {post : α → α → τ → σ → Prop}
    {fact : Prop} (h : fact → Relates pre act' act post) :
    Relates (fun t s => fact ∧ pre t s) act' act post := ⟨fun t s hs => (h hs.1).run t s hs.2⟩

/-- After the same result, the two actions go on with it. -/
theorem Agree.bind {act' : StateM τ α} {act : StateM σ α} {next' : α → StateM τ β}
    {next : α → StateM σ β} {post : β → β → τ → σ → Prop} (hact : Agree R act' act)
    (hnext : ∀ a, Relates R (next' a) (next a) post) :
    Relates R (act' >>= next') (act >>= next) post :=
  Relates.bind hact (fun _ a => .given (fun heq => heq ▸ hnext a))

theorem Relates.pure {a' a : α} {post : α → α → τ → σ → Prop}
    (h : ∀ t s, pre t s → post a' a t s) :
    Relates pre (Pure.pure a' : StateM τ α) (Pure.pure a : StateM σ α) post := ⟨h⟩

theorem Relates.ite {c : Prop} [Decidable c] {yes' no' : StateM τ α} {yes no : StateM σ α}
    {post : α → α → τ → σ → Prop} (hyes : Relates pre yes' yes post)
    (hno : Relates pre no' no post) :
    Relates pre (if c then yes' else no') (if c then yes else no) post := by
  split
  · exact hyes
  · exact hno

theorem Agree.pure (a : α) : Agree R (Pure.pure a : StateM τ α) (Pure.pure a : StateM σ α) :=
  ⟨fun _ _ h => ⟨rfl, h⟩⟩

theorem Agree.bindExcept {act' : ExceptT ε (StateM τ) α} {act : ExceptT ε (StateM σ) α}
    {next' : α → ExceptT ε (StateM τ) β} {next : α → ExceptT ε (StateM σ) β}
    (hact : Agree R act'.run act.run) (hnext : ∀ a, Agree R (next' a).run (next a).run) :
    Agree R (act' >>= next').run (act >>= next).run := by
  rw [ExceptT.run_bind, ExceptT.run_bind]
  refine Agree.bind hact (fun r => ?_)
  cases r with
  | ok a => exact hnext a
  | error e => exact Agree.pure _

theorem Akin.pure (a : α) :
    Akin same R (Pure.pure a : ExceptT ε (StateM τ) α) (Pure.pure a) := ⟨fun _ _ h => ⟨rfl, h⟩⟩

theorem Akin.throw {e : ε} (h : same e e) :
    Akin same R (MonadExcept.throw e : ExceptT ε (StateM τ) α) (MonadExcept.throw e) :=
  ⟨fun _ _ hR => ⟨h, hR⟩⟩

theorem Akin.bind {act' : ExceptT ε (StateM τ) α} {act : ExceptT ε (StateM σ) α}
    {next' : α → ExceptT ε (StateM τ) β} {next : α → ExceptT ε (StateM σ) β}
    (hact : Akin same R act' act) (hnext : ∀ a, Akin same R (next' a) (next a)) :
    Akin same R (act' >>= next') (act >>= next) := by
  unfold Akin
  rw [ExceptT.run_bind, ExceptT.run_bind]
  refine Relates.bind hact (fun r' r => .given (fun halike => ?_))
  cases r' with
  | ok a' =>
      cases r with
      | ok a =>
          obtain rfl : a' = a := halike
          exact hnext a'
      | error e => exact halike.elim
  | error e' =>
      cases r with
      | ok a => exact halike.elim
      | error e => exact .pure (fun _ _ hR => ⟨halike, hR⟩)

theorem Akin.ite {c : Prop} [Decidable c] {yes' no' : ExceptT ε (StateM τ) α}
    {yes no : ExceptT ε (StateM σ) α} (hyes : Akin same R yes' yes) (hno : Akin same R no' no) :
    Akin same R (if c then yes' else no') (if c then yes else no) := by
  split
  · exact hyes
  · exact hno

theorem Akin.iteBind {c : Prop} [Decidable c] {yes' no' : ExceptT ε (StateM τ) α}
    {yes no : ExceptT ε (StateM σ) α} {next' : α → ExceptT ε (StateM τ) β}
    {next : α → ExceptT ε (StateM σ) β} (hyes : Akin same R yes' yes) (hno : Akin same R no' no)
    (hnext : ∀ a, Akin same R (next' a) (next a)) :
    Akin same R (if c then yes' >>= next' else no' >>= next')
      (if c then yes >>= next else no >>= next) :=
  .ite (hyes.bind hnext) (hno.bind hnext)

end Rules

/-! ## Processors -/

/-- The same failure of processing the entry, met at moments that are related by `T`. -/
inductive Timed (T : Moment → Moment → Prop) (id : String) : CrawlError → CrawlError → Prop where
  | same {e : CrawlError} (h : Blames id e) : Timed T id e e
  | transient {operation message : String} {now' now : Moment} (h : T now' now) :
      Timed T id (.transient operation message (.after now'))
        (.transient operation message (.after now))

/-- The two copies that are at work, if any. -/
abbrev Copies := Option (String × String)

/-- The copy that has been made is at work; if none could be made, for the same reason, none is. -/
def Begun (R : Copies → τ → σ → Prop) :
    Except Failure String → Except Failure String → τ → σ → Prop
  | .ok path', .ok path => R (some (path', path))
  | .error f', .error f => fun t s => f' = f ∧ R none t s
  | _, _ => fun _ _ => False

/-- Every call that the one processor makes for the entry comes to what that of the other one comes
to, apart from the paths of copies and from the time. -/
structure Attends (T : Moment → Moment → Prop) (R : Copies → τ → σ → Prop) (id : String)
    (p' : Processor (StateM τ)) (p : Processor (StateM σ)) : Prop where
  idStart : p'.store.idStart = p.store.idStart
  tree : p'.tree = p.tree
  encoder : p'.encoder = p.encoder
  policy : p'.policy = p.policy
  location : p'.scratch.location = p.scratch.location
  present : ∀ c, Agree (R c) (p'.store.present id).run (p.store.present id).run
  isContainer : ∀ c, Agree (R c) (p'.store.isContainer id).run (p.store.isContainer id).run
  modified : ∀ c, Agree (R c) (p'.store.modified id).run (p.store.modified id).run
  length : ∀ c, Agree (R c) (p'.store.length id).run (p.store.length id).run
  children : ∀ c, Agree (R c) (p'.store.children id).run (p.store.children id).run
  content : ∀ c, Agree (R c) (p'.store.content id).run (p.store.content id).run
  access : ∀ c, Agree (R c) (p'.store.access id).run (p.store.access id).run
  containerAccess : ∀ c,
    Agree (R c) (p'.store.containerAccess id).run (p.store.containerAccess id).run
  create : Relates (R none) p'.scratch.create.run p.scratch.create.run (Begun R)
  clear : ∀ c : String × String,
    Agree (R (some c)) (p'.scratch.clear c.1).run (p.scratch.clear c.2).run
  append : ∀ (c : String × String) piece,
    Agree (R (some c)) (p'.scratch.append c.1 piece).run (p.scratch.append c.2 piece).run
  read : ∀ c : String × String,
    Agree (R (some c)) (p'.scratch.read c.1).run (p.scratch.read c.2).run
  discard : ∀ c : String × String,
    Relates (R (some c)) (p'.scratch.discard c.1) (p.scratch.discard c.2) (fun _ _ => R none)
  fingerprinter : ∀ c : String × String,
    Agree (R (some c)) (p'.fingerprinter c.1).run (p.fingerprinter c.2).run
  ingest : ∀ c request content, request.id = id →
    Agree (R c) (p'.sink.ingest request content).run (p.sink.ingest request content).run
  delete : ∀ c, Agree (R c) (p'.sink.delete id).run (p.sink.delete id).run
  skip : ∀ c reason, Agree (R c) (p'.sink.skip id reason).run (p.sink.skip id reason).run
  record : ∀ now' now r' r, T now' now → Alike (Timed T id) r' r →
    Agree (R none) (p'.sink.record (.ofResult now' id r')) (p.sink.record (.ofResult now id r))
  now : ∀ c, Relates (R c) p'.monitor.now p.monitor.now (fun now' now t s => T now' now ∧ R c t s)
  isCancelled : ∀ c, Agree (R c) p'.monitor.isCancelled p.monitor.isCancelled
  pause : ∀ c delay, Agree (R c) (p'.monitor.pause delay) (p.monitor.pause delay)
  warn : ∀ c w, Agree (R c) (p'.monitor.warn w) (p.monitor.warn w)

/-- Moments enter into failures that may pass, and into no others. -/
theorem timed_ofFailure {T : Moment → Moment → Prop} {now' now : Moment} (h : T now' now)
    (operation id : String) (f : Failure) :
    Timed T id (.ofFailure now' operation id f) (.ofFailure now operation id f) := by
  unfold CrawlError.ofFailure
  dsimp only
  cases (Signature.ofFailure f).faultClass with
  | retryable => exact .transient h
  | skip => exact .same (fun id' reason h' => by cases h'; rfl)
  | cancelled => exact .same (fun id' reason h' => by cases h')
  | fatal => exact .same (fun id' reason h' => by cases h')

namespace Attends

variable {T : Moment → Moment → Prop} {R : Copies → τ → σ → Prop} {id operation : String}
  {p' : Processor (StateM τ)} {p : Processor (StateM σ)} {c : Copies}
  {act' : Action (StateM τ) α} {act : Action (StateM σ) α}

theorem token_eq (h : Attends T R id p' p) (e : Entry) : p'.token e = p.token e := by
  unfold Processor.token
  rw [h.encoder, h.tree, h.idStart]

/-! ### Single calls -/

/-- Both make as many tries. -/
theorem tryFrom (h : Attends T R id p' p) (hact : Agree (R c) act'.run act.run) :
    ∀ (left attempt : Nat) (last : Option Streak),
      Agree (R c) (p'.retrying.tryFrom operation act' left attempt last).run
        (p.retrying.tryFrom operation act left attempt last).run
  | left, attempt, last => by
      rw [Retrying.tryFrom, Retrying.tryFrom]
      have hpolicy : p'.retrying.policy = p.retrying.policy := h.policy
      refine (h.isCancelled c).bind (fun cancelled => .ite (Agree.pure _) ?_)
      refine hact.bind (fun r => ?_)
      cases r with
      | ok a => exact Agree.pure _
      | error f =>
          refine .ite (Agree.pure _) ?_
          cases left with
          | zero => exact Agree.pure _
          | succ left =>
              dsimp only
              rw [hpolicy]
              refine .ite (Agree.pure _) ?_
              refine (h.warn c _).bind (fun _ => ?_)
              have hwait : ∀ delay,
                  Agree (R c) (p'.retrying.wait delay) (p.retrying.wait delay) := fun delay =>
                .ite (Agree.pure _) (h.pause c delay)
              refine (hwait _).bind (fun _ => .ite (Agree.pure _) ?_)
              exact tryFrom h hact left _ _

theorem judged (h : Attends T R id p' p) (hact : Agree (R c) act'.run act.run) :
    Akin (Timed T id) (R c) (p'.judged operation id act') (p.judged operation id act) := by
  refine hact.bind (fun r => ?_)
  cases r with
  | ok a => exact .pure (fun _ _ hR => ⟨rfl, hR⟩)
  | error f =>
      refine (h.now c).bind (fun now' now => .given (fun hT => .pure (fun _ _ hR => ⟨?_, hR⟩)))
      exact timed_ofFailure hT operation id f

theorem call (h : Attends T R id p' p) (k : StoreCall) (hact : Agree (R c) act'.run act.run) :
    Akin (Timed T id) (R c) (p'.call k id act') (p.call k id act) := by
  have hretry : Agree (R c) (p'.retrying.tryFrom k.label act' p.policy.extraTries 1 none).run
      (p.retrying.tryFrom k.label act p.policy.extraTries 1 none).run := h.tryFrom hact _ _ _
  have hpolicy : p'.retrying.policy = p.policy := h.policy
  refine h.judged ?_
  unfold Retrying.run
  rw [hpolicy]
  exact hretry

/-! ### Looking at the entry -/

theorem describe (h : Attends T R id p' p) :
    Akin (Timed T id) (R c) (p'.describe id) (p.describe id) := by
  unfold Processor.describe
  rw [h.encoder]
  refine (h.call .present (h.present c)).bind (fun there => .ite (.pure _) ?_)
  refine (h.call .isContainer (h.isContainer c)).bind (fun isContainer => ?_)
  refine (h.call .modified (h.modified c)).bind (fun modified => ?_)
  refine .iteBind (.pure _) (h.call .length (h.length c)) (fun length => ?_)
  refine .iteBind (h.call .access (h.access c)) (.pure _) (fun access => ?_)
  exact .iteBind (h.call .containerAccess (h.containerAccess c)) (.pure _) (fun _ => .pure _)

theorem listing (h : Attends T R id p' p) :
    Akin (Timed T id) (R c) (p'.children id) (p.children id) := by
  refine h.call .children ((h.children c).bindExcept (fun listing => ?_))
  cases listing.failure with
  | some f => exact Agree.pure _
  | none => exact Agree.pure _

/-! ### Telling the receiver -/

theorem deletion (h : Attends T R id p' p) (reason : String) :
    Akin (Timed T id) (R c) (p'.delete id reason) (p.delete id reason) :=
  (h.judged (h.delete c)).bind (fun _ => .pure _)

theorem skipping (h : Attends T R id p' p) (reason : SkipReason) (token : String) :
    Akin (Timed T id) (R c) (p'.skip id reason token) (p.skip id reason token) :=
  (h.judged (h.skip c reason)).bind (fun _ => .pure _)

theorem handOver (h : Attends T R id p' p) (request : Delivery) (content : Content)
    (hid : request.id = id) :
    Akin (Timed T id) (R c) (p'.handOver request content) (p.handOver request content) := by
  obtain rfl := hid
  exact (h.judged (h.ingest c request content rfl)).bind (fun _ => .pure _)

/-! ### Copies -/

theorem appendAll (h : Attends T R id p' p) (path' path : String) : ∀ pieces : List ByteArray,
    Agree (R (some (path', path))) (p'.scratch.appendAll path' pieces).run
      (p.scratch.appendAll path pieces).run
  | [] => .pure _
  | piece :: pieces =>
      (h.append (path', path) piece).bindExcept (fun _ => appendAll h path' path pieces)

theorem fill (h : Attends T R id p' p) (path' path : String) (content : Content) :
    Agree (R (some (path', path))) (p'.scratch.fill path' content).run
      (p.scratch.fill path content).run := by
  refine (h.clear (path', path)).bindExcept (fun _ => (h.appendAll path' path _).bindExcept ?_)
  intro _
  cases content.failure with
  | some f => exact Agree.pure _
  | none => exact Agree.pure _

theorem withCopy (h : Attends T R id p' p) {work' : String → Processing (StateM τ) α}
    {work : String → Processing (StateM σ) α}
    (hwork : ∀ path' path,
      Akin (Timed T id) (R (some (path', path))) (work' path') (work path)) :
    Akin (Timed T id) (R none) (p'.withCopy id work') (p.withCopy id work) := by
  refine Relates.bind h.create (fun r' r => ?_)
  cases r' with
  | error f' =>
      cases r with
      | ok path => exact ⟨fun _ _ hbegun => hbegun.elim⟩
      | error f =>
          refine ⟨?_⟩
          rintro t s ⟨rfl, hR⟩
          refine ⟨?_, hR⟩
          change Timed T id (.fatal "scratch" (f'.within ("Failed to create scratch file in " ++
            p'.scratch.location))) (.fatal "scratch" _)
          rw [h.location]
          exact .same (fun id' reason h' => by cases h')
  | ok path' =>
      cases r with
      | error f => exact ⟨fun _ _ hbegun => hbegun.elim⟩
      | ok path =>
          have hcopy := (h.content (some (path', path))).bindExcept
            (fun content => h.fill path' path content)
          -- the copy is discarded, whatever came of the work
          refine Relates.bind ((h.call .content hcopy).bind (fun _ => hwork path' path)) ?_
          refine fun r' r => .given (fun halike => (h.discard (path', path)).bind (fun _ _ => ?_))
          exact .pure (fun _ _ hR => ⟨halike, hR⟩)

/-! ### Deciding about the entry -/

variable {e : Entry} {known : Option String}

theorem ingestCopy (h : Attends T R id p' p) (hid : e.id = id) (token path' path : String) :
    Akin (Timed T id) (R (some (path', path))) (p'.ingestCopy e token path')
      (p.ingestCopy e token path) := by
  obtain rfl := hid
  unfold Processor.ingestCopy
  rw [h.tree]
  refine (h.judged (h.fingerprinter (path', path))).bind (fun f => .ite ?_ (h.deletion _))
  refine (h.judged ?_).bind (fun content => h.handOver _ content rfl)
  refine (h.read (path', path)).bind (fun r => ?_)
  cases r with
  | ok content => exact Agree.pure _
  | error f => exact Agree.pure _

theorem ingestion (h : Attends T R id p' p) (hid : e.id = id) (token : String) :
    Akin (Timed T id) (R none) (p'.ingest e token) (p.ingest e token) := by
  obtain rfl := hid
  simp only [Processor.ingest]
  cases (Version.ofToken token).ambiguity with
  | forcedExclude => exact h.deletion _
  | forcedInclude =>
      exact (h.call .content (h.content none)).bind (fun content => h.handOver _ content rfl)
  | dependsOnContent => exact h.withCopy (fun path' path => h.ingestCopy rfl token path' path)

theorem decideEntry (h : Attends T R id p' p) (hid : e.id = id) :
    Akin (Timed T id) (R none) (p'.decideEntry e known) (p.decideEntry e known) := by
  obtain rfl := hid
  rw [decideEntry_eq, decideEntry_eq, h.tree, h.token_eq]
  refine .ite (h.deletion _) (.ite ?_ (.ite (h.skipping _ _) (h.ingestion rfl _)))
  exact h.listing.bind (fun _ => h.skipping _ _)

/-- What is found out is about the entry that was asked for. -/
theorem found (h : Attends T R id p' p) :
    Relates (R none) (p'.describe id).run (p.describe id).run (fun r' r t s =>
      (Alike (Timed T id) r' r ∧ ∀ e, r = .ok (some e) → e.id = id) ∧ R none t s) := by
  refine ⟨fun t s hR => ?_⟩
  obtain ⟨halike, hR'⟩ := h.describe.run t s hR
  refine ⟨⟨halike, fun e he => ?_⟩, hR'⟩
  have hspec := (describe_spec (conduct_trivial p) id).run s trivial
  rw [he] at hspec
  exact hspec.2.1

theorem decide (h : Attends T R id p' p) :
    Akin (Timed T id) (R none) (p'.decide id known) (p.decide id known) := by
  unfold Akin Processor.decide
  rw [ExceptT.run_bind, ExceptT.run_bind]
  refine Relates.bind h.found (fun r' r => .given ?_)
  rintro ⟨halike, hid⟩
  cases r' with
  | error e' =>
      cases r with
      | ok found => exact halike.elim
      | error e => exact .pure (fun _ _ hR => ⟨halike, hR⟩)
  | ok found' =>
      cases r with
      | error e => exact halike.elim
      | ok found =>
          obtain rfl : found' = found := halike
          cases found' with
          | none => exact h.deletion _
          | some e => exact h.decideEntry (hid e rfl)

/-- An entry that is gone is deleted by both, and it is the one that was asked for. -/
theorem deleteIfAbsent (h : Attends T R id p' p) {r' r : Except CrawlError Outcome}
    (hr : Alike (Timed T id) r' r) :
    Akin (Timed T id) (R none) (p'.deleteIfAbsent r') (p.deleteIfAbsent r) := by
  cases r' with
  | ok o' =>
      cases r with
      | ok o =>
          obtain rfl : o' = o := hr
          exact Akin.pure o'
      | error e => exact hr.elim
  | error e' =>
      cases r with
      | ok o => exact hr.elim
      | error e =>
          cases hr with
          | transient hT => exact ⟨fun _ _ hR => ⟨.transient hT, hR⟩⟩
          | same hblame =>
              cases e' with
              | absent id' reason =>
                  obtain rfl := hblame id' reason rfl
                  exact h.deletion reason
              | transient => exact Akin.throw (.same hblame)
              | cancelled => exact Akin.throw (.same hblame)
              | fatal => exact Akin.throw (.same hblame)
              | config => exact Akin.throw (.same hblame)

/-- What is recorded of an entry shows its result and the time. -/
theorem recording (h : Attends T R id p' p) {r' r : Except CrawlError Outcome}
    (hr : Alike (Timed T id) r' r) :
    Relates (R none)
      (do p'.sink.record (.ofResult (← p'.monitor.now) id r'); return r')
      (do p.sink.record (.ofResult (← p.monitor.now) id r); return r)
      (fun r' r t s => Alike (Timed T id) r' r ∧ R none t s) :=
  (h.now none).bind (fun now' now => .given (fun hT =>
    (h.record now' now r' r hT hr).bind (fun _ => .pure (fun _ _ hR => ⟨hr, hR⟩))))

/-- **Processing an entry comes to the same in both**, apart from the time. -/
theorem process (h : Attends T R id p' p) :
    Relates (R none) (p'.process id known) (p.process id known)
      (fun r' r t s => Alike (Timed T id) r' r ∧ R none t s) :=
  Relates.bind h.decide (fun _ _ => .given (fun hd =>
    Relates.bind (h.deleteIfAbsent hd) (fun _ _ => .given (fun hr => h.recording hr))))

/-- So does retiring it. -/
theorem retire (h : Attends T R id p' p) :
    Relates (R none) (p'.retire id) (p.retire id)
      (fun r' r t s => Alike (Timed T id) r' r ∧ R none t s) := by
  refine Relates.bind (h.deletion _) (fun r' r => .given (fun hr => ?_))
  cases r' with
  | ok o' =>
      cases r with
      | ok o => exact h.recording hr
      | error e => exact hr.elim
  | error e' =>
      cases r with
      | ok o => exact hr.elim
      | error e => exact .pure (fun _ _ hR => ⟨hr, hR⟩)

end Attends

end Harvest
