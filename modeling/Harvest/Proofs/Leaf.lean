import Harvest.Proofs.Shelf

/-!
# Leaves whose calls all succeed

The version of a leaf tells by its flag whether inclusion hinges on the content. Where it does not,
the content is not looked at: the leaf is handed over as it comes from the store, or not opened at
all. Where it does, a copy is made and fingerprinted first. `process_leaf` says that these ways come
to the same. When every call succeeds, a leaf is handed over just when the rules accept it with the
fingerprint of its content, whether anybody has taken that fingerprint or not.

It also says what becomes of the content meanwhile: when it is opened, when it is fingerprinted, and
that the receiver gets what the store holds.
-/

namespace Harvest

variable {σ α β : Type}

/-! ## What is done with content -/

/-- What can be done with the content of an entry. -/
inductive Probe where
  | opened (id : String)
  | fingerprinted (path : String)
  | delivered (request : Delivery) (content : Content)

/-- What the receiver gets. -/
def Probe.delivery? : Probe → Option (Delivery × Except Failure ByteArray)
  | delivered request content => some (request, content.toResult)
  | _ => none

/-- An action that is noted when it is made. -/
def probe (act : Action (StateM σ) α) (note : Probe) : Action (StateM (σ × List Probe)) α :=
  ExceptT.mk (noting act.run (fun _ seen => seen ++ [note]))

/-- An action that is not noted. -/
def unnoted (act : Action (StateM σ) α) : Action (StateM (σ × List Probe)) α :=
  ExceptT.mk (beside act.run)

/-- The processor that notes what it does with content. -/
def Processor.probed (p : Processor (StateM σ)) : Processor (StateM (σ × List Probe)) where
  store :=
    { idStart := p.store.idStart
      present := fun id => unnoted (p.store.present id)
      isContainer := fun id => unnoted (p.store.isContainer id)
      modified := fun id => unnoted (p.store.modified id)
      length := fun id => unnoted (p.store.length id)
      children := fun id => unnoted (p.store.children id)
      content := fun id => probe (p.store.content id) (.opened id)
      access := fun id => unnoted (p.store.access id)
      containerAccess := fun id => unnoted (p.store.containerAccess id) }
  tree := p.tree
  encoder := p.encoder
  sink :=
    { ingest := fun request content =>
        probe (p.sink.ingest request content) (.delivered request content)
      delete := fun id => unnoted (p.sink.delete id)
      skip := fun id reason => unnoted (p.sink.skip id reason)
      record := fun activity => beside (p.sink.record activity) }
  scratch :=
    { location := p.scratch.location
      create := unnoted p.scratch.create
      clear := fun path => unnoted (p.scratch.clear path)
      append := fun path piece => unnoted (p.scratch.append path piece)
      read := fun path => unnoted (p.scratch.read path)
      discard := fun path => beside (p.scratch.discard path) }
  fingerprinter := fun path => probe (p.fingerprinter path) (.fingerprinted path)
  policy := p.policy
  monitor :=
    { now := beside p.monitor.now
      isCancelled := beside p.monitor.isCancelled
      pause := fun delay => beside (p.monitor.pause delay)
      warn := fun w => beside (p.monitor.warn w) }

theorem probe_shadows (act : Action (StateM σ) α) (note : Probe) :
    Shadows (probe act note).run act.run := fun _ => ⟨rfl, rfl⟩

theorem unnoted_shadows (act : Action (StateM σ) α) : Shadows (unnoted act).run act.run :=
  fun _ => ⟨rfl, rfl⟩

theorem probed_mimics (p : Processor (StateM σ)) : Mimics p.probed p where
  idStart := rfl
  tree := rfl
  encoder := rfl
  policy := rfl
  location := rfl
  present := fun _ => unnoted_shadows _
  isContainer := fun _ => unnoted_shadows _
  modified := fun _ => unnoted_shadows _
  length := fun _ => unnoted_shadows _
  children := fun _ => unnoted_shadows _
  content := fun _ => probe_shadows _ _
  access := fun _ => unnoted_shadows _
  containerAccess := fun _ => unnoted_shadows _
  create := unnoted_shadows _
  clear := fun _ => unnoted_shadows _
  append := fun _ _ => unnoted_shadows _
  read := fun _ => unnoted_shadows _
  discard := fun _ => .beside _
  fingerprinter := fun _ => probe_shadows _ _
  ingest := fun _ _ => probe_shadows _ _
  delete := fun _ => unnoted_shadows _
  skip := fun _ _ => unnoted_shadows _
  record := fun _ => .beside _
  now := .beside _
  isCancelled := .beside _
  pause := fun _ => .beside _
  warn := fun _ => .beside _

/-! ## Calls that succeed -/

/-- From every state with `pre`, the action succeeds with `post`. -/
abbrev Succeeds {ε : Type} (pre : σ → Prop) (act : ExceptT ε (StateM σ) α)
    (post : α → σ → Prop) : Prop := Attempts pre act post (fun _ _ => False)

/-- Every call that processing a leaf makes succeeds. The store answers by the snapshot. A scratch
copy holds what has been written to it, and its fingerprint is that of the bytes it holds. `At seen`
holds when `seen` has been done with the content. -/
structure Serves (p : Processor (StateM σ)) (S : Snapshot) (print : ByteArray → Fingerprint)
    (At : List Probe → σ → Prop) (held : σ → String → ByteArray) (id : String) : Prop where
  present : ∀ seen, Succeeds (At seen) (p.store.present id)
    (fun a s => At seen s ∧ a = S.present id)
  isContainer : ∀ seen, Succeeds (At seen) (p.store.isContainer id)
    (fun a s => At seen s ∧ a = S.isContainer id)
  modified : ∀ seen, Succeeds (At seen) (p.store.modified id)
    (fun a s => At seen s ∧ a = S.modified id)
  length : ∀ seen, Succeeds (At seen) (p.store.length id)
    (fun a s => At seen s ∧ a = S.length id)
  access : ∀ seen, Succeeds (At seen) (p.store.access id)
    (fun a s => At seen s ∧ a = S.access id)
  containerAccess : ∀ seen, Succeeds (At seen) (p.store.containerAccess id)
    (fun a s => At seen s ∧ a = S.containerAccess id)
  content : ∀ seen, Succeeds (At seen) (p.store.content id)
    (fun c s => At (seen ++ [.opened id]) s ∧ c.toResult = .ok (S.content id))
  create : ∀ seen, Succeeds (At seen) p.scratch.create (fun _ => At seen)
  clear : ∀ seen path, Succeeds (At seen) (p.scratch.clear path)
    (fun _ s => At seen s ∧ held s path = .empty)
  append : ∀ seen path bytes piece, Succeeds (fun s => At seen s ∧ held s path = bytes)
    (p.scratch.append path piece) (fun _ s => At seen s ∧ held s path = bytes ++ piece)
  fingerprinter : ∀ seen path bytes, Succeeds (fun s => At seen s ∧ held s path = bytes)
    (p.fingerprinter path) (fun f s =>
      (At (seen ++ [.fingerprinted path]) s ∧ held s path = bytes) ∧ f = print bytes)
  read : ∀ seen path bytes, Succeeds (fun s => At seen s ∧ held s path = bytes)
    (p.scratch.read path) (fun c s => At seen s ∧ c.toResult = .ok bytes)
  discard : ∀ seen path, Ensures (At seen) (p.scratch.discard path) (fun _ => At seen)
  ingest : ∀ seen request content, Succeeds (At seen) (p.sink.ingest request content)
    (fun _ => At (seen ++ [.delivered request content]))
  delete : ∀ seen, Succeeds (At seen) (p.sink.delete id) (fun _ => At seen)
  skip : ∀ seen reason, Succeeds (At seen) (p.sink.skip id reason) (fun _ => At seen)
  record : ∀ seen activity, Ensures (At seen) (p.sink.record activity) (fun _ => At seen)
  now : ∀ seen, Ensures (At seen) p.monitor.now (fun _ => At seen)
  isCancelled : ∀ seen, Ensures (At seen) p.monitor.isCancelled
    (fun cancelled s => At seen s ∧ cancelled = false)

/-- The state of a probed crawl when `seen` has been noted. -/
def Seen (inv : σ → Prop) (seen : List Probe) (s : σ × List Probe) : Prop := inv s.1 ∧ s.2 = seen

section Probed

variable {inv pre : σ → Prop} {pre' : σ × List Probe → Prop} {post : α → σ → Prop}
  {post' : α → σ × List Probe → Prop} {seen : List Probe}

theorem beside_seen {act : StateM σ α} (h : Ensures inv act post)
    (hpost : ∀ a s, post a s → post' a (s, seen)) : Ensures (Seen inv seen) (beside act) post' := by
  refine ⟨?_⟩
  intro s h0
  obtain ⟨hs, rfl⟩ := h0
  exact hpost _ _ (h.run s.1 hs)

theorem unnoted_succeeds {act : Action (StateM σ) α} (h : Succeeds pre act post)
    (hpre : ∀ s, pre' s → pre s.1 ∧ s.2 = seen) (hpost : ∀ a s, post a s → post' a (s, seen)) :
    Succeeds pre' (unnoted act) post' := by
  refine ⟨fun s hs => ?_⟩
  obtain ⟨hs, rfl⟩ := hpre s hs
  have hrun := h.run s.1 hs
  change Upshot _ _ (act.run.run s.1).1 ((act.run.run s.1).2, s.2)
  generalize act.run.run s.1 = r at hrun
  obtain ⟨r, s'⟩ := r
  cases r with
  | ok a => exact hpost a s' hrun
  | error f => exact hrun

theorem probe_succeeds {act : Action (StateM σ) α} {note : Probe} (h : Succeeds pre act post)
    (hpre : ∀ s, pre' s → pre s.1 ∧ s.2 = seen)
    (hpost : ∀ a s, post a s → post' a (s, seen ++ [note])) :
    Succeeds pre' (probe act note) post' := by
  refine ⟨fun s hs => ?_⟩
  obtain ⟨hs, rfl⟩ := hpre s hs
  have hrun := h.run s.1 hs
  change Upshot _ _ (act.run.run s.1).1 ((act.run.run s.1).2, s.2 ++ [note])
  generalize act.run.run s.1 = r at hrun
  obtain ⟨r, s'⟩ := r
  cases r with
  | ok a => exact hpost a s' hrun
  | error f => exact hrun

end Probed

variable {p : Processor (StateM σ)} {S : Snapshot} {print : ByteArray → Fingerprint}
  {At : List Probe → σ → Prop} {held : σ → String → ByteArray} {id : String} {inv : σ → Prop}
  {seen : List Probe} {known : Option String} {e : Entry} {o : Outcome}

/-- Notes change nothing of how the calls succeed, and tell what has been done. -/
theorem serves_probed (h : Serves p S print (fun _ => inv) held id) :
    Serves p.probed S print (Seen inv) (fun s => held s.1) id where
  present := fun seen => unnoted_succeeds (h.present seen) (fun _ hs => hs)
    (fun _ _ hs => ⟨⟨hs.1, rfl⟩, hs.2⟩)
  isContainer := fun seen => unnoted_succeeds (h.isContainer seen) (fun _ hs => hs)
    (fun _ _ hs => ⟨⟨hs.1, rfl⟩, hs.2⟩)
  modified := fun seen => unnoted_succeeds (h.modified seen) (fun _ hs => hs)
    (fun _ _ hs => ⟨⟨hs.1, rfl⟩, hs.2⟩)
  length := fun seen => unnoted_succeeds (h.length seen) (fun _ hs => hs)
    (fun _ _ hs => ⟨⟨hs.1, rfl⟩, hs.2⟩)
  access := fun seen => unnoted_succeeds (h.access seen) (fun _ hs => hs)
    (fun _ _ hs => ⟨⟨hs.1, rfl⟩, hs.2⟩)
  containerAccess := fun seen => unnoted_succeeds (h.containerAccess seen) (fun _ hs => hs)
    (fun _ _ hs => ⟨⟨hs.1, rfl⟩, hs.2⟩)
  content := fun seen => probe_succeeds (h.content seen) (fun _ hs => hs)
    (fun _ _ hs => ⟨⟨hs.1, rfl⟩, hs.2⟩)
  create := fun seen => unnoted_succeeds (h.create seen) (fun _ hs => hs) (fun _ _ hs => ⟨hs, rfl⟩)
  clear := fun seen path => unnoted_succeeds (h.clear seen path) (fun _ hs => hs)
    (fun _ _ hs => ⟨⟨hs.1, rfl⟩, hs.2⟩)
  append := fun seen path bytes piece => unnoted_succeeds (h.append seen path bytes piece)
    (fun _ hs => ⟨⟨hs.1.1, hs.2⟩, hs.1.2⟩) (fun _ _ hs => ⟨⟨hs.1, rfl⟩, hs.2⟩)
  fingerprinter := fun seen path bytes => probe_succeeds (h.fingerprinter seen path bytes)
    (fun _ hs => ⟨⟨hs.1.1, hs.2⟩, hs.1.2⟩) (fun _ _ hs => ⟨⟨⟨hs.1.1, rfl⟩, hs.1.2⟩, hs.2⟩)
  read := fun seen path bytes => unnoted_succeeds (h.read seen path bytes)
    (fun _ hs => ⟨⟨hs.1.1, hs.2⟩, hs.1.2⟩) (fun _ _ hs => ⟨⟨hs.1, rfl⟩, hs.2⟩)
  discard := fun seen path => beside_seen (h.discard seen path) (fun _ _ hs => ⟨hs, rfl⟩)
  ingest := fun seen request content => probe_succeeds (h.ingest seen request content)
    (fun _ hs => hs) (fun _ _ hs => ⟨hs, rfl⟩)
  delete := fun seen => unnoted_succeeds (h.delete seen) (fun _ hs => hs) (fun _ _ hs => ⟨hs, rfl⟩)
  skip := fun seen reason => unnoted_succeeds (h.skip seen reason) (fun _ hs => hs)
    (fun _ _ hs => ⟨hs, rfl⟩)
  record := fun seen activity => beside_seen (h.record seen activity) (fun _ _ hs => ⟨hs, rfl⟩)
  now := fun seen => beside_seen (h.now seen) (fun _ _ hs => ⟨hs, rfl⟩)
  isCancelled := fun seen => beside_seen (h.isCancelled seen)
    (fun _ _ hs => ⟨⟨hs.1, rfl⟩, hs.2⟩)

/-! ## Looking at the leaf -/

theorem within_succeeds {act : Action (StateM σ) α} {pre : σ → Prop} {post : α → σ → Prop}
    {context : String} (hact : Succeeds pre act post) :
    Succeeds pre (Action.within context act) post := by
  refine Ensures.bind hact (fun r => ?_)
  cases r with
  | ok a => exact Ensures.pure (fun _ hs => hs)
  | error f => exact ⟨fun _ hs => hs.elim⟩

theorem judged_succeeds {act : Action (StateM σ) α} {pre : σ → Prop} {post : α → σ → Prop}
    {operation : String} (hact : Succeeds pre act post) :
    Succeeds pre (p.judged operation id act) post := by
  refine Ensures.bind hact (fun r => ?_)
  cases r with
  | ok a => exact Ensures.pure (fun _ hs => hs)
  | error f => exact ⟨fun _ hs => hs.elim⟩

namespace Serves

/-- A call that succeeds is made once, whatever the policy. -/
theorem call (h : Serves p S print At held id) (k : StoreCall) {act : Action (StateM σ) α}
    {post : α → σ → Prop} (hact : Succeeds (At seen) act post) :
    Succeeds (At seen) (p.call k id act) post := by
  refine judged_succeeds ?_
  unfold Retrying.run
  rw [Retrying.tryFrom]
  refine (h.isCancelled seen).bind (fun cancelled => ?_)
  refine Ensures.ite (fun hc => ⟨fun s hs => ?_⟩) (fun _ => ?_)
  · -- nobody has cancelled the crawl
    rw [hs.2] at hc
    cases hc
  · refine Ensures.bind (Ensures.imp hact (fun s hs => hs.1) (fun _ _ hs => hs)) (fun r => ?_)
    cases r with
    | ok a => exact Ensures.pure (fun _ hs => hs)
    | error f => exact ⟨fun _ hs => hs.elim⟩

/-- An access list that the settings ask for. -/
theorem asked {a : Option β} {c : Prop} [Decidable c] (h : Serves p S print At held id)
    (k : StoreCall) {act : Action (StateM σ) (Option β)}
    (hact : Succeeds (At seen) act (fun x s => At seen s ∧ x = a)) (hc : c) :
    Succeeds (At seen) (p.call k id act)
      (fun x s => At seen s ∧ x = if c then a else none) := by
  rw [if_pos hc]
  exact h.call k hact

/-- The leaf is found as the store holds it. -/
theorem describe (h : Serves p S print At held id) (hpresent : S.present id = true)
    (hleaf : S.isContainer id = false) :
    Succeeds (At seen) (p.describe id)
      (fun found s => At seen s ∧ found = some (S.entry p.encoder id)) := by
  have hunasked : ∀ {c : Prop} [Decidable c] {a : Option (List AccessEntry)}, ¬c →
      Succeeds (At seen) (pure none : Processing (StateM σ) (Option (List AccessEntry)))
        (fun x s => At seen s ∧ x = if c then a else none) := by
    intro c _ a hc
    rw [if_neg hc]
    exact .pure (fun _ hs => ⟨hs, rfl⟩)
  unfold Processor.describe
  refine (h.call .present (h.present seen)).bind (fun there => .given (fun hthere => ?_))
  rw [hpresent] at hthere
  refine .ite (fun hc => by rw [hthere] at hc; cases hc) (fun _ => ?_)
  refine (h.call .isContainer (h.isContainer seen)).bind (fun kind => .given (fun hkind => ?_))
  rw [hleaf] at hkind
  subst hkind
  refine (h.call .modified (h.modified seen)).bind (fun modified => .given (fun hmodified => ?_))
  refine .iteBind (fun hc => by cases hc) (fun _ => h.call .length (h.length seen))
    (fun length => .given (fun hlength => ?_))
  refine .iteBind (h.asked .access (h.access seen)) hunasked
    (fun access => .given (fun haccess => ?_))
  refine .iteBind (h.asked .containerAccess (h.containerAccess seen)) hunasked
    (fun containerAccess => .given (fun hcontainerAccess => ?_))
  refine .pure (fun s hs => ⟨hs, ?_⟩)
  rw [hmodified, hlength, haccess, hcontainerAccess]
  unfold Snapshot.entry
  rw [hleaf]
  rfl

end Serves

/-! ## Deciding about the leaf -/

/-- The flag of the version that the processor gives an entry. -/
def Processor.flag (p : Processor (StateM σ)) (e : Entry) : Ambiguity :=
  (Version.ofToken (p.token e)).ambiguity

/-- The rules do not exclude the leaf for what it is, and it is not what it was. -/
def Processor.Opens (p : Processor (StateM σ)) (known : Option String) (e : Entry) : Prop :=
  p.tree.mayInclude e = true ∧ known ≠ some (p.token e)

/-- What goes with the content of an entry. -/
def Processor.request (p : Processor (StateM σ)) (e : Entry) (f : Option Fingerprint) : Delivery :=
  ⟨e.id, p.token e, .ofToken (p.token e), f⟩

/-- The ways that processing a leaf can take when every call succeeds, each with what is done with
the content. -/
inductive Course (p : Processor (StateM σ)) (print : ByteArray → Fingerprint) (e : Entry)
    (content : ByteArray) (known : Option String) : Outcome → List Probe → Prop where
  /-- The rules have no use for it. -/
  | excluded (hrules : p.tree.mayInclude e = false) :
      Course p print e content known (.delete e.id "excluded by rules") []
  /-- It is what it was. -/
  | unchanged (hrules : p.tree.mayInclude e = true) (hknown : known = some (p.token e)) :
      Course p print e content known (.skip e.id .unchanged (p.token e)) []
  /-- The flag tells that no content would do. -/
  | refused (hopens : p.Opens known e) (hflag : p.flag e = .forcedExclude) :
      Course p print e content known (.delete e.id "excluded by rules") []
  /-- The flag tells that any content will do. -/
  | accepted {c : Content} {bytes : Nat} (hopens : p.Opens known e)
      (hflag : p.flag e = .forcedInclude) (hwhole : c.toResult = .ok content) :
      Course p print e content known (.ingest e.id (p.token e) bytes)
        [.opened e.id, .delivered (p.request e none) c]
  /-- The content will do. -/
  | welcome {path : String} {c : Content} {bytes : Nat} (hopens : p.Opens known e)
      (hflag : p.flag e = .dependsOnContent) (hwhole : c.toResult = .ok content)
      (haccept : p.tree.wouldInclude e (print content).indexable = true) :
      Course p print e content known (.ingest e.id (p.token e) bytes)
        [.opened e.id, .fingerprinted path, .delivered (p.request e (some (print content))) c]
  /-- The content will not do. -/
  | unwelcome {path : String} (hopens : p.Opens known e) (hflag : p.flag e = .dependsOnContent)
      (hreject : p.tree.wouldInclude e (print content).indexable = false) :
      Course p print e content known (.delete e.id "excluded after fingerprinting")
        [.opened e.id, .fingerprinted path]

/-- Processing has taken one of the ways. -/
def Taken (p : Processor (StateM σ)) (S : Snapshot) (print : ByteArray → Fingerprint)
    (At : List Probe → σ → Prop) (e : Entry) (known : Option String) (o : Outcome) (s : σ) : Prop :=
  ∃ seen, At seen s ∧ Course p print e (S.content e.id) known o seen

/-- What leaves the notes alone changes nothing of it. -/
theorem taken_kept {act : StateM σ α} (hact : ∀ seen, Ensures (At seen) act (fun _ => At seen)) :
    Ensures (Taken p S print At e known o) act (fun _ => Taken p S print At e known o) := by
  refine ⟨?_⟩
  intro s h0
  obtain ⟨seen, hs, hcourse⟩ := h0
  exact ⟨seen, (hact seen).run s hs, hcourse⟩

namespace Serves

theorem deletion (h : Serves p S print At held id) {reason : String}
    (hcourse : Course p print e (S.content e.id) known (.delete id reason) seen) :
    Succeeds (At seen) (p.delete id reason) (Taken p S print At e known) :=
  (judged_succeeds (h.delete seen)).bind (fun _ => .pure (fun _ hs => ⟨seen, hs, hcourse⟩))

theorem skipping (h : Serves p S print At held id) {reason : SkipReason} {token : String}
    (hcourse : Course p print e (S.content e.id) known (.skip id reason token) seen) :
    Succeeds (At seen) (p.skip id reason token) (Taken p S print At e known) :=
  (judged_succeeds (h.skip seen reason)).bind (fun _ => .pure (fun _ hs => ⟨seen, hs, hcourse⟩))

theorem handOver (h : Serves p S print At held id) {request : Delivery} {content : Content}
    (hcourse : ∀ bytes, Course p print e (S.content e.id) known
      (.ingest request.id request.token bytes) (seen ++ [.delivered request content])) :
    Succeeds (At seen) (p.handOver request content) (Taken p S print At e known) :=
  (judged_succeeds (h.ingest seen request content)).bind
    (fun bytes => .pure (fun _ hs => ⟨_, hs, hcourse bytes⟩))

/-! ### Copies -/

theorem appendAll (h : Serves p S print At held id) (path : String) :
    ∀ (pieces : List ByteArray) (bytes : ByteArray),
      Succeeds (fun s => At seen s ∧ held s path = bytes) (p.scratch.appendAll path pieces)
        (fun _ s => At seen s ∧ held s path = pieces.foldl (· ++ ·) bytes)
  | [], _ => .pure (fun _ hs => hs)
  | piece :: pieces, bytes =>
      (h.append seen path bytes piece).bind (fun _ => appendAll h path pieces (bytes ++ piece))

/-- A copy that is made holds what the store holds. -/
theorem copy (h : Serves p S print At held id) (path : String) :
    Succeeds (At seen) (do p.scratch.fill path (← p.store.content id))
      (fun _ s => At (seen ++ [.opened id]) s ∧ held s path = S.content id) := by
  refine (h.content seen).bind (fun content => .given (fun hcontent => ?_))
  unfold Content.toResult at hcontent
  unfold Scratch.fill
  cases hf : content.failure with
  | some f =>
      rw [hf] at hcontent
      cases hcontent
  | none =>
      rw [hf] at hcontent
      have hbytes : content.bytes = S.content id := Except.ok.inj hcontent
      refine (h.clear _ path).bind (fun _ => (h.appendAll path content.pieces .empty).bind ?_)
      intro _
      refine .pure (fun s hs => ⟨hs.1, ?_⟩)
      rw [hs.2, ← hbytes]
      rfl

theorem withCopy (h : Serves p S print At held id) {work : String → Processing (StateM σ) Outcome}
    (hwork : ∀ path, Succeeds
      (fun s => At (seen ++ [.opened id]) s ∧ held s path = S.content id) (work path)
      (Taken p S print At e known)) :
    Succeeds (At seen) (p.withCopy id work) (Taken p S print At e known) := by
  refine Ensures.bind (h.create seen) (fun r => ?_)
  cases r with
  | error f => exact ⟨fun _ hs => hs.elim⟩
  | ok path =>
      refine Ensures.bind ((h.call .content (h.copy path)).bind (fun _ => hwork path)) ?_
      intro r
      cases r with
      | error f => exact ⟨fun _ hs => hs.elim⟩
      | ok o =>
          exact (taken_kept (fun seen => h.discard seen path)).bind
            (fun _ => Ensures.pure (fun _ hs => hs))

theorem ingestCopy (h : Serves p S print At held e.id) (hopens : p.Opens known e)
    (hflag : p.flag e = .dependsOnContent) (path : String) :
    Succeeds (fun s => At [.opened e.id] s ∧ held s path = S.content e.id)
      (p.ingestCopy e (p.token e) path) (Taken p S print At e known) := by
  refine (judged_succeeds (h.fingerprinter _ path _)).bind (fun f => .given (fun hf => ?_))
  subst hf
  refine .ite (fun haccept => ?_) (fun hreject => ?_)
  · refine (judged_succeeds (within_succeeds (h.read _ path _))).bind ?_
    refine fun content => .given (fun hcontent => ?_)
    exact h.handOver (fun bytes => .welcome hopens hflag hcontent haccept)
  · have hreject : p.tree.wouldInclude e (print (S.content e.id)).indexable = false := by
      simpa using hreject
    have hcourse : Course p print e (S.content e.id) known
        (.delete e.id "excluded after fingerprinting") [.opened e.id, .fingerprinted path] :=
      .unwelcome hopens hflag hreject
    exact (h.deletion hcourse).imp (fun _ hs => hs.1) (fun _ _ hs => hs) (fun _ _ hs => hs)

/-! ### The whole of it -/

theorem ingestion (h : Serves p S print At held e.id) (hopens : p.Opens known e) :
    Succeeds (At []) (p.ingest e (p.token e)) (Taken p S print At e known) := by
  simp only [Processor.ingest]
  cases hflag : (Version.ofToken (p.token e)).ambiguity with
  | forcedExclude => exact h.deletion (.refused hopens hflag)
  | forcedInclude =>
      refine (h.call .content (h.content [])).bind (fun content => .given (fun hcontent => ?_))
      exact h.handOver (fun bytes => .accepted hopens hflag hcontent)
  | dependsOnContent => exact h.withCopy (h.ingestCopy hopens hflag)

theorem decideEntry (h : Serves p S print At held e.id) (hleaf : e.isContainer = false) :
    Succeeds (At []) (p.decideEntry e known) (Taken p S print At e known) := by
  rw [decideEntry_eq]
  refine .ite (fun hrules => ?_) (fun hrules => ?_)
  · exact h.deletion (.excluded (by simpa using hrules))
  have hrules : p.tree.mayInclude e = true := by simpa using hrules
  refine .ite (fun hc => by rw [hleaf] at hc; cases hc) (fun _ => ?_)
  refine .ite (fun hknown => ?_) (fun hnew => ?_)
  · exact h.skipping (.unchanged hrules hknown)
  · exact h.ingestion ⟨hrules, hnew⟩

/-- **Processing a leaf takes one of its ways.** -/
theorem process (h : Serves p S print At held id) (hpresent : S.present id = true)
    (hleaf : S.isContainer id = false) (known : Option String) :
    Succeeds (At []) (ExceptT.mk (p.process id known))
      (Taken p S print At (S.entry p.encoder id) known) := by
  have hdecide : Succeeds (At []) (p.decide id known)
      (Taken p S print At (S.entry p.encoder id) known) := by
    refine (h.describe hpresent hleaf).bind (fun found => .given (fun hfound => ?_))
    subst hfound
    exact decideEntry h ((entry_isContainer S p.encoder id).trans hleaf)
  refine Ensures.bind hdecide (fun r => ?_)
  cases r with
  | error f => exact ⟨fun _ hs => hs.elim⟩
  | ok o =>
      -- the leaf is there, and what is recorded of it changes nothing
      have hthere : Succeeds (Taken p S print At (S.entry p.encoder id) known o)
          (p.deleteIfAbsent (.ok o)) (Taken p S print At (S.entry p.encoder id) known) :=
        .pure (fun _ hs => hs)
      refine Ensures.bind hthere (fun r => ?_)
      cases r with
      | error f => exact ⟨fun _ hs => hs.elim⟩
      | ok o =>
          refine (taken_kept h.now).bind (fun now => ?_)
          refine (taken_kept (fun seen => h.record seen _)).bind (fun _ => ?_)
          exact Ensures.pure (fun _ hs => hs)

end Serves

/-! ## What the flag is worth -/

/-- **The flag of a version survives in its token**, if the access lists are of a length that a word
can hold. -/
theorem flag_eq (hfits : (p.encoder.version p.tree p.store.idStart e).Fits) :
    p.flag e = Encoder.ambiguity p.tree e := by
  have hread := Version.decode_encode_append hfits []
  rw [List.append_nil] at hread
  unfold Processor.flag Processor.token Encoder.token Version.ofToken
  rw [Version.toList_token, hread]
  rfl

variable {tree : RuleTree}

theorem ofOutcomes_include {yes no : Bool} :
    Ambiguity.ofOutcomes yes no = .forcedInclude ↔ yes = true ∧ no = true := by
  cases yes <;> cases no <;> decide

theorem ofOutcomes_exclude {yes no : Bool} :
    Ambiguity.ofOutcomes yes no = .forcedExclude ↔ yes = false ∧ no = false := by
  cases yes <;> cases no <;> decide

theorem ofOutcomes_content {yes no : Bool} :
    Ambiguity.ofOutcomes yes no = .dependsOnContent ↔ yes ≠ no := by
  cases yes <;> cases no <;> decide

theorem wouldInclude_of_include (hflag : Encoder.ambiguity tree e = .forcedInclude)
    (indexable : Bool) : tree.wouldInclude e indexable = true := by
  obtain ⟨hyes, hno⟩ := ofOutcomes_include.mp hflag
  cases indexable with
  | true => exact hyes
  | false => exact hno

theorem wouldInclude_of_exclude (hflag : Encoder.ambiguity tree e = .forcedExclude)
    (indexable : Bool) : tree.wouldInclude e indexable = false := by
  obtain ⟨hyes, hno⟩ := ofOutcomes_exclude.mp hflag
  cases indexable with
  | true => exact hyes
  | false => exact hno

/-- Where the content decides, what is indexable fares differently from what is not. -/
theorem wouldInclude_of_content (hflag : Encoder.ambiguity tree e = .dependsOnContent)
    (f g : Fingerprint) (hne : f.indexable ≠ g.indexable) :
    tree.wouldInclude e f.indexable ≠ tree.wouldInclude e g.indexable := by
  have hdiffer : tree.wouldInclude e true ≠ tree.wouldInclude e false :=
    ofOutcomes_content.mp hflag
  cases hf : f.indexable with
  | true =>
      have hg : g.indexable = false := by
        rw [hf] at hne
        exact Bool.eq_false_iff.mpr hne.symm
      rw [hg]
      exact hdiffer
  | false =>
      have hg : g.indexable = true := by
        rw [hf] at hne
        simpa using hne.symm
      rw [hg]
      exact hdiffer.symm

/-! ## What becomes of a leaf -/

/-- What the receiver gets with an outcome: the whole content, and the fingerprint if it matters. -/
def Processor.handed (p : Processor (StateM σ)) (print : ByteArray → Fingerprint) (e : Entry)
    (content : ByteArray) : Outcome → List (Delivery × Except Failure ByteArray)
  | .ingest _ _ _ => [(p.request e
      (if p.flag e = .dependsOnContent then some (print content) else none), .ok content)]
  | _ => []

/-- What becomes of a leaf, and of its content. -/
structure Handled (p : Processor (StateM σ)) (print : ByteArray → Fingerprint) (e : Entry)
    (content : ByteArray) (known : Option String) (o : Outcome) (seen : List Probe) : Prop where
  /-- A leaf that the rules have no use for is deleted. -/
  excluded : p.tree.mayInclude e = false → ∃ reason, o = .delete e.id reason
  /-- A leaf that is what it was is left alone. -/
  unchanged : p.tree.mayInclude e = true → known = some (p.token e) →
    o = .skip e.id .unchanged (p.token e)
  /-- Any other leaf is handed over if the rules accept it with the fingerprint of its content. -/
  accepted : p.Opens known e → p.tree.wouldInclude e (print content).indexable = true →
    ∃ bytes, o = .ingest e.id (p.token e) bytes
  /-- And it is deleted if they do not. -/
  rejected : p.Opens known e → p.tree.wouldInclude e (print content).indexable = false →
    ∃ reason, o = .delete e.id reason
  /-- Content is opened for its own sake only, and if there is a chance that it is handed over. -/
  opened : ∀ id, .opened id ∈ seen → id = e.id ∧ p.Opens known e ∧ p.flag e ≠ .forcedExclude
  /-- A fingerprint is taken only where fingerprints make a difference. -/
  fingerprinted : ∀ path, .fingerprinted path ∈ seen → p.flag e = .dependsOnContent ∧
    ∀ f g : Fingerprint, f.indexable ≠ g.indexable →
      p.tree.wouldInclude e f.indexable ≠ p.tree.wouldInclude e g.indexable
  /-- The receiver gets what the store holds, once, and nothing of a leaf that is not handed over.
  -/
  delivered : seen.filterMap Probe.delivery? = p.handed print e content o

/-- Of a leaf that is opened, or would be, the first two are not in question. -/
theorem handled_of_opens {content : ByteArray}
    (hfits : (p.encoder.version p.tree p.store.idStart e).Fits) (hopens : p.Opens known e)
    (haccepted : p.tree.wouldInclude e (print content).indexable = true →
      ∃ bytes, o = .ingest e.id (p.token e) bytes)
    (hrejected : p.tree.wouldInclude e (print content).indexable = false →
      ∃ reason, o = .delete e.id reason)
    (hopened : ∀ id, .opened id ∈ seen → id = e.id ∧ p.flag e ≠ .forcedExclude)
    (hfingerprinted : ∀ path, .fingerprinted path ∈ seen → p.flag e = .dependsOnContent)
    (hdelivered : seen.filterMap Probe.delivery? = p.handed print e content o) :
    Handled p print e content known o seen where
  excluded := fun hrules => absurd (hrules.symm.trans hopens.1) Bool.false_ne_true
  unchanged := fun _ hknown => absurd hknown hopens.2
  accepted := fun _ => haccepted
  rejected := fun _ => hrejected
  opened := fun id hmem => ⟨(hopened id hmem).1, hopens, (hopened id hmem).2⟩
  fingerprinted := by
    intro path hmem
    have hflag := hfingerprinted path hmem
    exact ⟨hflag, wouldInclude_of_content ((flag_eq hfits).symm.trans hflag)⟩
  delivered := hdelivered

/-- **Every way that a leaf can take treats it alike.** -/
theorem Course.handled {content : ByteArray} (h : Course p print e content known o seen)
    (hfits : (p.encoder.version p.tree p.store.idStart e).Fits) :
    Handled p print e content known o seen := by
  cases h with
  | excluded hrules =>
      have hclosed : ¬p.Opens known e := fun hopens =>
        absurd (hrules.symm.trans hopens.1) Bool.false_ne_true
      exact
        { excluded := fun _ => ⟨_, rfl⟩
          unchanged := fun hmay => absurd (hrules.symm.trans hmay) Bool.false_ne_true
          accepted := fun hopens => absurd hopens hclosed
          rejected := fun hopens => absurd hopens hclosed
          opened := fun _ hmem => by cases hmem
          fingerprinted := fun _ hmem => by cases hmem
          delivered := rfl }
  | unchanged hrules hknown =>
      have hclosed : ¬p.Opens known e := fun hopens => hopens.2 hknown
      exact
        { excluded := fun hno => absurd (hno.symm.trans hrules) Bool.false_ne_true
          unchanged := fun _ _ => rfl
          accepted := fun hopens => absurd hopens hclosed
          rejected := fun hopens => absurd hopens hclosed
          opened := fun _ hmem => by cases hmem
          fingerprinted := fun _ hmem => by cases hmem
          delivered := rfl }
  | refused hopens hflag =>
      -- the flag says that the fingerprint would not have helped
      have hno := wouldInclude_of_exclude ((flag_eq hfits).symm.trans hflag)
        (print content).indexable
      refine handled_of_opens hfits hopens (fun hyes => ?_) (fun _ => ⟨_, rfl⟩)
        (fun _ hmem => by cases hmem) (fun _ hmem => by cases hmem) rfl
      exact absurd (hno.symm.trans hyes) Bool.false_ne_true
  | @accepted c bytes hopens hflag hwhole =>
      -- the flag says that the fingerprint would not have hurt
      have hyes := wouldInclude_of_include ((flag_eq hfits).symm.trans hflag)
        (print content).indexable
      refine handled_of_opens hfits hopens (fun _ => ⟨_, rfl⟩) (fun hno => ?_) ?_ ?_ ?_
      · exact absurd (hno.symm.trans hyes) Bool.false_ne_true
      · intro id hmem
        rw [hflag]
        exact ⟨by simpa using hmem, by decide⟩
      · intro path hmem
        simp at hmem
      · have hforced : p.flag e ≠ .dependsOnContent := by
          rw [hflag]
          decide
        unfold Processor.handed
        rw [if_neg hforced, ← hwhole]
        rfl
  | @welcome path c bytes hopens hflag hwhole haccept =>
      refine handled_of_opens hfits hopens (fun _ => ⟨_, rfl⟩) (fun hno => ?_) ?_ ?_ ?_
      · exact absurd (hno.symm.trans haccept) Bool.false_ne_true
      · intro id hmem
        rw [hflag]
        exact ⟨by simpa using hmem, by decide⟩
      · exact fun _ _ => hflag
      · unfold Processor.handed
        rw [if_pos hflag, ← hwhole]
        rfl
  | @unwelcome path hopens hflag hreject =>
      refine handled_of_opens hfits hopens (fun hyes => ?_) (fun _ => ⟨_, rfl⟩) ?_ ?_ rfl
      · exact absurd (hreject.symm.trans hyes) Bool.false_ne_true
      · intro id hmem
        rw [hflag]
        exact ⟨by simpa using hmem, by decide⟩
      · exact fun _ _ => hflag

/-- A processor that notes what it does goes by the same rules and settings. -/
theorem Handled.unprobed {content : ByteArray}
    (h : Handled p.probed print e content known o seen) :
    Handled p print e content known o seen where
  excluded := h.excluded
  unchanged := h.unchanged
  accepted := h.accepted
  rejected := h.rejected
  opened := h.opened
  fingerprinted := h.fingerprinted
  delivered := h.delivered

/-- **What becomes of a leaf is a matter of its content**, whether anybody looks at it or not. If
every call succeeds, processing a leaf deletes it when the rules have no use for what it is, and
leaves it alone when it has the token known before. Otherwise it is handed over just when the rules
accept it with the fingerprint of its content, and deleted when they do not. Its content is opened
and fingerprinted only where that matters, and the receiver gets what the store holds. -/
theorem process_leaf (p : Processor (StateM σ)) (S : Snapshot) (print : ByteArray → Fingerprint)
    (inv : σ → Prop) (held : σ → String → ByteArray) (id : String) (known : Option String) (s : σ)
    (h : Serves p S print (fun _ => inv) held id) (hs : inv s) (hpresent : S.present id = true)
    (hleaf : S.isContainer id = false)
    (hfits : (p.encoder.version p.tree p.store.idStart (S.entry p.encoder id)).Fits) :
    let r := (p.probed.process id known).run (s, [])
    ((p.process id known).run s = (r.1, r.2.1) ∧ inv r.2.1) ∧
      ∃ o, r.1 = .ok o ∧ Handled p print (S.entry p.encoder id) (S.content id) known o r.2.2 := by
  intro r
  obtain ⟨hresult, hstate⟩ := (probed_mimics p).process id known (s, [])
  have htaken := ((serves_probed h).process hpresent hleaf known).run (s, []) ⟨hs, rfl⟩
  have hprobed : (p.probed.process id known).run (s, []) = r := rfl
  rw [hprobed] at hresult hstate
  change Upshot _ _ r.1 r.2 at htaken
  cases hr : r.1 with
  | error f =>
      rw [hr] at htaken
      exact htaken.elim
  | ok o =>
      rw [hr] at htaken hresult
      obtain ⟨seen, ⟨hinv, hseen⟩, hcourse⟩ := htaken
      obtain rfl : r.2.2 = seen := hseen
      exact ⟨⟨Prod.ext hresult.symm hstate.symm, hinv⟩, o, rfl, (hcourse.handled hfits).unprobed⟩

/-! ## A leaf on a shelf -/

/-- Rules that accept what is worth indexing. -/
def pickyTree : RuleTree := ⟨none, [⟨"/", [(Rule.accept "*").withIndexable .yes]⟩]⟩

/-- A store with a text and a leaf that is no text. -/
def mixedShelf : Snapshot where
  present := fun _ => true
  isContainer := fun _ => false
  modified := fun _ => 1
  length := fun _ => 2
  children := fun _ => []
  content := fun id => if id = "/text" then ⟨#[104, 105]⟩ else ⟨#[0, 1]⟩
  access := fun _ => none
  containerAccess := fun _ => none

theorem toResult_ofBytes (bytes : ByteArray) : (Content.ofBytes bytes).toResult = .ok bytes :=
  congrArg Except.ok ByteArray.empty_append

/-- Every call to a shelf succeeds, but for listings. -/
theorem shelf_serves (tree : RuleTree) (enc : Encoder) (S : Snapshot) (id : String) :
    Serves (shelfCrawl tree enc) S (fun bytes => .ofPieces [bytes])
      (fun _ s => s.snapshot = S) (fun s _ => s.copy) id where
  present := fun _ => ⟨fun _ hs => ⟨hs, by rw [← hs]⟩⟩
  isContainer := fun _ => ⟨fun _ hs => ⟨hs, by rw [← hs]⟩⟩
  modified := fun _ => ⟨fun _ hs => ⟨hs, by rw [← hs]⟩⟩
  length := fun _ => ⟨fun _ hs => ⟨hs, by rw [← hs]⟩⟩
  access := fun _ => ⟨fun _ hs => ⟨hs, by rw [← hs]⟩⟩
  containerAccess := fun _ => ⟨fun _ hs => ⟨hs, by rw [← hs]⟩⟩
  content := fun _ => ⟨fun _ hs => ⟨hs, by rw [← hs]; exact toResult_ofBytes _⟩⟩
  create := fun _ => ⟨fun _ hs => hs⟩
  clear := fun _ _ => ⟨fun _ hs => ⟨hs, rfl⟩⟩
  append := fun _ _ _ _ => ⟨fun _ hs => ⟨hs.1, by rw [← hs.2]; rfl⟩⟩
  fingerprinter := fun _ _ _ => ⟨fun _ hs => ⟨hs, by rw [← hs.2]; rfl⟩⟩
  read := fun _ _ _ => ⟨fun _ hs => ⟨hs.1, by rw [← hs.2]; exact toResult_ofBytes _⟩⟩
  discard := fun _ _ => ⟨fun _ hs => hs⟩
  ingest := fun _ _ _ => ⟨fun _ hs => hs⟩
  delete := fun _ => ⟨fun _ hs => hs⟩
  skip := fun _ _ => ⟨fun _ hs => hs⟩
  record := fun _ _ => ⟨fun _ hs => hs⟩
  now := fun _ => ⟨fun _ hs => hs⟩
  isCancelled := fun _ => ⟨fun _ hs => ⟨hs, rfl⟩⟩

/-- A crawl over the shelf by these rules, with nothing known of the leaf. -/
def pickyRun (id : String) : Except CrawlError Outcome × (Shelf × List Probe) :=
  ((shelfCrawl pickyTree .standard).probed.process id none).run (⟨mixedShelf, .empty, none⟩, [])

/-- The text is handed over with its bytes, and the other leaf is deleted. -/
theorem process_leaf_picky :
    (∃ bytes token, (pickyRun "/text").1 = .ok (.ingest "/text" token bytes)) ∧
      ((pickyRun "/text").2.2.filterMap Probe.delivery?).map Prod.snd = [.ok ⟨#[104, 105]⟩] ∧
      (∃ reason, (pickyRun "/noise").1 = .ok (.delete "/noise" reason)) ∧
      (pickyRun "/noise").2.2.filterMap Probe.delivery? = [] := by
  have hfits : ∀ id, ((shelfCrawl pickyTree .standard).encoder.version pickyTree ""
      (mixedShelf.entry .standard id)).Fits := fun id =>
    ⟨fun _ h => (nomatch h), fun _ h => (nomatch h)⟩
  have hserves := shelf_serves pickyTree .standard mixedShelf
  obtain ⟨_, o, htext, hhandled⟩ := process_leaf (shelfCrawl pickyTree .standard) mixedShelf _ _ _
    "/text" none ⟨mixedShelf, .empty, none⟩ (hserves "/text") rfl rfl rfl (hfits "/text")
  obtain ⟨_, o', hnoise, hhandled'⟩ := process_leaf (shelfCrawl pickyTree .standard) mixedShelf _ _
    _ "/noise" none ⟨mixedShelf, .empty, none⟩ (hserves "/noise") rfl rfl rfl (hfits "/noise")
  obtain ⟨bytes, rfl⟩ := hhandled.accepted ⟨by decide +kernel, nofun⟩ (by decide +kernel)
  obtain ⟨reason, rfl⟩ := hhandled'.rejected ⟨by decide +kernel, nofun⟩ (by decide +kernel)
  refine ⟨⟨bytes, _, htext⟩, ?_, ⟨reason, hnoise⟩, hhandled'.delivered⟩
  exact (congrArg (List.map Prod.snd) hhandled.delivered).trans rfl

end Harvest
