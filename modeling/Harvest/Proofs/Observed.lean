import Harvest.Proofs.Likeness
import Harvest.Proofs.Tracing

/-!
# Watching the receiver

An observed processor notes what it does to the receiver, and every failure and cancellation that it
meets. From the notes of a pass one can read off which version of which entry the receiver holds in
the end (`Index.after`), and whether the pass was undisturbed.

`conduct_observed` says what each call adds to the notes, so that `process_spec` tells what
processing an entry adds to them: an entry in the ledger for an outcome that changes the index, and
none for a failure.
-/

namespace Harvest

variable {σ α β : Type}

/-! ## Notes -/

/-- What can be noted of a crawl. -/
inductive Event where
  | ingested (request : Delivery) (content : Content) (bytes : Nat)
  | deleted (id : String)
  | skipped (id : String) (reason : SkipReason)
  | recorded (activity : Activity)
  /-- A call failed, or what it answered broke off. -/
  | failed (failure : Failure)
  /-- The crawl was found cancelled. -/
  | cancelled

/-- Whether the event disturbs a pass. -/
def Event.isFault : Event → Bool
  | failed _ => true
  | cancelled => true
  | _ => false

/-- Which version of an entry the receiver holds from now on, if the event decides about it. -/
def Event.line? : Event → Option (String × Option String)
  | ingested request _ _ => some (request.id, some request.token)
  | deleted id => some (id, none)
  | _ => none

/-- What the events did to the receiver, in order. -/
def ledger (events : List Event) : List (String × Option String) := events.filterMap Event.line?

theorem ledger_append (before after : List Event) :
    ledger (before ++ after) = ledger before ++ ledger after := List.filterMap_append

/-- Something has disturbed the pass. -/
def Faulty (s : σ × List Event) : Prop := ∃ event ∈ s.2, event.isFault = true

/-- What an outcome does to the receiver. -/
def Outcome.lines : Outcome → List (String × Option String)
  | ingest id token _ => [(id, some token)]
  | delete id _ => [(id, none)]
  | skip .. => []

/-! ## Observed calls -/

/-- An action that notes what comes of it. -/
def watch (act : Action (StateM σ) α) (note : α → List Event) :
    Action (StateM (σ × List Event)) α :=
  ExceptT.mk (noting act.run (fun r events => events ++ match r with
    | .ok a => note a
    | .error f => [.failed f]))

/-- The failure with which an answer breaks off. -/
def breakOff (failure : Option Failure) : List Event := failure.toList.map .failed

/-- What is noted when the crawl is found cancelled. -/
def halt (cancelled : Bool) : List Event := if cancelled then [.cancelled] else []

/-- The processor that notes what it does to the receiver, and what disturbs it. -/
def Processor.observed (p : Processor (StateM σ)) : Processor (StateM (σ × List Event)) where
  store :=
    { idStart := p.store.idStart
      present := fun id => watch (p.store.present id) (fun _ => [])
      isContainer := fun id => watch (p.store.isContainer id) (fun _ => [])
      modified := fun id => watch (p.store.modified id) (fun _ => [])
      length := fun id => watch (p.store.length id) (fun _ => [])
      children := fun id => watch (p.store.children id) (fun listing => breakOff listing.failure)
      content := fun id => watch (p.store.content id) (fun content => breakOff content.failure)
      access := fun id => watch (p.store.access id) (fun _ => [])
      containerAccess := fun id => watch (p.store.containerAccess id) (fun _ => []) }
  tree := p.tree
  encoder := p.encoder
  sink :=
    { ingest := fun request content =>
        watch (p.sink.ingest request content) (fun bytes => [.ingested request content bytes])
      delete := fun id => watch (p.sink.delete id) (fun _ => [.deleted id])
      skip := fun id reason => watch (p.sink.skip id reason) (fun _ => [.skipped id reason])
      record := fun activity =>
        noting (p.sink.record activity) (fun _ events => events ++ [.recorded activity]) }
  scratch :=
    { location := p.scratch.location
      create := watch p.scratch.create (fun _ => [])
      clear := fun path => watch (p.scratch.clear path) (fun _ => [])
      append := fun path piece => watch (p.scratch.append path piece) (fun _ => [])
      read := fun path => watch (p.scratch.read path) (fun _ => [])
      discard := fun path => beside (p.scratch.discard path) }
  fingerprinter := fun path => watch (p.fingerprinter path) (fun _ => [])
  policy := p.policy
  monitor :=
    { now := beside p.monitor.now
      isCancelled := noting p.monitor.isCancelled (fun cancelled events => events ++ halt cancelled)
      pause := fun delay =>
        noting (p.monitor.pause delay) (fun cancelled events => events ++ halt cancelled)
      warn := fun w => beside (p.monitor.warn w) }

/-! ## What a call adds to the notes -/

variable {p : Processor (StateM σ)} {inv : σ → Prop} {act : Action (StateM σ) α}
  {note : α → List Event} {before : List Event} {s : σ × List Event}

/-- The state of an observed crawl that had noted `before` and has then told the receiver `told`. -/
def Noted (inv : σ → Prop) (before : List Event) (told : Option Outcome) (s : σ × List Event) :
    Prop :=
  inv s.1 ∧ before <+: s.2 ∧ ledger s.2 = ledger before ++ told.elim [] Outcome.lines

theorem Faulty.mono (h : Faulty s) {s' : σ × List Event} (hmore : s.2 <+: s'.2) : Faulty s' := by
  obtain ⟨event, hevent, hfault⟩ := h
  exact ⟨event, hmore.subset hevent, hfault⟩

/-- Notes without a line of the ledger change nothing of what was told. -/
theorem Noted.add {told : Option Outcome} (h : Noted inv before told s) {t : σ} (ht : inv t)
    {events : List Event} (hsilent : ledger events = []) :
    Noted inv before told (t, s.2 ++ events) := by
  obtain ⟨_, hmore, hlines⟩ := h
  refine ⟨ht, hmore.trans (List.prefix_append _ _), ?_⟩
  rw [ledger_append, hsilent, List.append_nil]
  exact hlines

/-- What is told adds its lines to the ledger. -/
theorem Noted.tell (h : Noted inv before none s) {t : σ} (ht : inv t) {events : List Event}
    {o : Outcome} (hlines : ledger events = o.lines) :
    Noted inv before (some o) (t, s.2 ++ events) := by
  obtain ⟨_, hmore, hbefore⟩ := h
  refine ⟨ht, hmore.trans (List.prefix_append _ _), ?_⟩
  rw [ledger_append, hbefore, hlines, Option.elim_none, List.append_nil, Option.elim_some]

theorem faulty_of_mem {event : Event} {events : List Event} (h : event ∈ events)
    (hfault : event.isFault = true) (t : σ) : Faulty (t, events) := ⟨event, h, hfault⟩

/-- A failure is noted, and the receiver has been told nothing. -/
theorem Noted.fault (h : Noted inv before none s) {t : σ} (ht : inv t) (f : Failure) :
    Noted inv before none (t, s.2 ++ [.failed f]) ∧ Faulty (t, s.2 ++ [.failed f]) :=
  ⟨h.add ht rfl, faulty_of_mem (List.mem_append_right _ (List.mem_singleton_self _)) rfl t⟩

/-- An action that keeps the invariant, whether it fails or not. -/
theorem watch_attempts {told : α → Option Outcome} (h : Ensures inv act.run (fun _ => inv))
    (hnote : ∀ a s t, Noted inv before none s → inv t →
      Noted inv before (told a) (t, s.2 ++ note a)) :
    Attempts (Noted inv before none) (watch act note)
      (fun a s => Noted inv before (told a) s ∧ ((note a).any Event.isFault = true → Faulty s))
      (fun _ s => Noted inv before none s ∧ Faulty s) := by
  refine ⟨fun s hs => ?_⟩
  have hinv := h.run s.1 hs.1
  change Upshot _ _ (act.run.run s.1).1 ((act.run.run s.1).2, s.2 ++ match (act.run.run s.1).1 with
    | .ok a => note a
    | .error f => [.failed f])
  -- whatever comes of the call is noted after it
  cases hr : (act.run.run s.1).1 with
  | error f => exact hs.fault hinv f
  | ok a =>
      refine ⟨hnote a s _ hs hinv, fun hany => ?_⟩
      obtain ⟨event, hevent, hfault⟩ := List.any_eq_true.mp hany
      exact faulty_of_mem (List.mem_append_right _ hevent) hfault _

theorem Attempts.keeps {ε : Type} {act : ExceptT ε (StateM σ) α} {good : α → σ → Prop}
    {bad : ε → σ → Prop} (h : Attempts inv act good bad) (hgood : ∀ a s, good a s → inv s)
    (hbad : ∀ e s, bad e s → inv s) : Ensures inv act.run (fun _ => inv) := by
  refine Ensures.imp h (fun _ hs => hs) (fun r => ?_)
  cases r with
  | ok a => exact hgood a
  | error e => exact hbad e

theorem Quiet.keeps {F : σ → Prop} (h : Quiet inv F act) : Ensures inv act.run (fun _ => inv) :=
  Attempts.keeps h (fun _ _ hs => hs) (fun _ _ hs => hs.1)

theorem watch_quiet (h : Ensures inv act.run (fun _ => inv)) :
    Quiet (Noted inv before none) Faulty (watch act (fun _ => [])) :=
  (watch_attempts h (fun _ _ _ hs ht => hs.add ht rfl)).imp (fun _ hs => hs)
    (fun _ _ hs => hs.1) (fun _ _ hs => hs)

theorem ledger_breakOff (failure : Option Failure) : ledger (breakOff failure) = [] := by
  cases failure <;> rfl

/-- An answer that breaks off is noted as a failure. -/
theorem watch_breakOff {failure : α → Option Failure} (h : Ensures inv act.run (fun _ => inv)) :
    Attempts (Noted inv before none) (watch act (fun a => breakOff (failure a)))
      (fun a s => Noted inv before none s ∧ (failure a ≠ none → Faulty s))
      (fun _ s => Noted inv before none s ∧ Faulty s) := by
  refine (watch_attempts h (fun a _ _ hs ht => hs.add ht (ledger_breakOff (failure a)))).imp
    (fun _ hs => hs) (fun a s hs => ⟨hs.1, fun hne => hs.2 ?_⟩) (fun _ _ hs => hs)
  cases hf : failure a with
  | none => exact absurd hf hne
  | some f => rfl

/-- What is told the receiver is noted as its line in the ledger. -/
theorem watch_tells {told : α → Outcome} (h : Ensures inv act.run (fun _ => inv))
    (hlines : ∀ a, ledger (note a) = (told a).lines) :
    Attempts (Noted inv before none) (watch act note)
      (fun a => Noted inv before (some (told a))) (fun _ s => Noted inv before none s ∧ Faulty s) :=
  (watch_attempts h (fun a _ _ hs ht => hs.tell ht (hlines a))).imp (fun _ hs => hs)
    (fun _ _ hs => hs.1) (fun _ _ hs => hs)

theorem watch_mark : Ensures Faulty (watch act note).run (fun _ => Faulty) :=
  ⟨fun _ hs => hs.mono (List.prefix_append _ _)⟩

theorem noting_steady {act : StateM σ α} {note : α → List Event}
    (h : Ensures inv act (fun _ => inv)) (hsilent : ∀ a, ledger (note a) = []) :
    Steady (Noted inv before) Faulty (noting act (fun a events => events ++ note a)) where
  stage := fun _ => ⟨fun s hs => hs.add (h.run s.1 hs.1) (hsilent _)⟩
  mark := ⟨fun _ hs => hs.mono (List.prefix_append _ _)⟩

theorem beside_steady {act : StateM σ α} (h : Ensures inv act (fun _ => inv)) :
    Steady (Noted inv before) Faulty (beside act) where
  stage := fun _ => ⟨fun s hs => ⟨h.run s.1 hs.1, hs.2⟩⟩
  mark := ⟨fun _ hs => hs.mono (List.prefix_refl _)⟩

/-- **What an observed processor notes.** Whatever it calls keeps the invariant, and adds to the
ledger what the receiver takes in and nothing else; no failure goes without a note. -/
theorem conduct_observed (h : Conduct p (Keeping inv) (fun _ => True)) (before : List Event) :
    Conduct p.observed (Noted inv before) Faulty := by
  have hhalt : ∀ act : StateM σ Bool, Ensures inv act (fun _ => inv) →
      Steady (Noted inv before) Faulty
        (noting act (fun cancelled events => events ++ halt cancelled)) := fun act hact =>
    noting_steady hact (fun cancelled => by cases cancelled <;> rfl)
  have hcancelled : Ensures inv p.monitor.isCancelled (fun _ => inv) :=
    h.isCancelled.imp (fun _ hs => hs) (fun _ _ hs => hs.1)
  exact
    { present := fun id => watch_quiet (h.present id).keeps
      isContainer := fun id => watch_quiet (h.isContainer id).keeps
      modified := fun id => watch_quiet (h.modified id).keeps
      length := fun id => watch_quiet (h.length id).keeps
      access := fun id => watch_quiet (h.access id).keeps
      containerAccess := fun id => watch_quiet (h.containerAccess id).keeps
      children := fun id => watch_breakOff
        ((h.children id).keeps (fun _ _ hs => hs.1) (fun _ _ hs => hs.1))
      content := fun id => watch_breakOff
        ((h.content id).keeps (fun _ _ hs => hs.1) (fun _ _ hs => hs.1))
      create := watch_quiet h.create.keeps
      clear := fun path => watch_quiet (h.clear path).keeps
      append := fun path piece => watch_quiet (h.append path piece).keeps
      read := fun path => watch_quiet (h.read path).keeps
      discard := fun path => beside_steady ((h.discard path).stage none)
      fingerprinter := fun path => watch_quiet (h.fingerprinter path).keeps
      clear_mark := fun _ => watch_mark
      append_mark := fun _ _ => watch_mark
      ingest := fun request content => watch_tells
        ((h.ingest request content).keeps (fun _ _ hs => hs) (fun _ _ hs => hs.1)) (fun _ => rfl)
      delete := fun id reason => watch_tells
        ((h.delete id reason).keeps (fun _ _ hs => hs) (fun _ _ hs => hs.1)) (fun _ => rfl)
      delete_mark := fun _ => watch_mark
      skip := fun id reason token => watch_tells
        ((h.skip id reason token).keeps (fun _ _ hs => hs) (fun _ _ hs => hs.1)) (fun _ => rfl)
      record := fun activity => noting_steady ((h.record activity).stage none) (fun _ => rfl)
      now := beside_steady (h.now.stage none)
      warn := fun w => beside_steady ((h.warn w).stage none)
      pause := fun delay => hhalt _ ((h.pause delay).stage none)
      isCancelled := by
        refine ⟨fun s hs => ⟨((hhalt _ hcancelled).stage none).run s hs, fun hc => ?_⟩⟩
        change (p.monitor.isCancelled.run s.1).1 = true at hc
        change Faulty ((p.monitor.isCancelled.run s.1).2,
          s.2 ++ halt (p.monitor.isCancelled.run s.1).1)
        rw [hc]
        exact faulty_of_mem (List.mem_append_right _ (List.mem_singleton_self _)) rfl _ }

/-! ## Observation does not interfere -/

section Beneath

variable {τ : Type} {p' : Processor (StateM (σ × τ))} {id : String} {c : Copies}

/-- The same copy is at work, and the first state is the second one with notes. -/
def Beneath (c : Copies) (s' : σ × τ) (s : σ) : Prop := (∀ w, c = some w → w.1 = w.2) ∧ s'.1 = s

theorem Shadows.beneath {act' : StateM (σ × τ) α} {act : StateM σ α} (h : Shadows act' act)
    (c : Copies) : Agree (Beneath c) act' act := by
  refine ⟨?_⟩
  intro s' s h0
  obtain ⟨hcopy, rfl⟩ := h0
  obtain ⟨hresult, hstate⟩ := h s'
  exact ⟨hresult, hcopy, hstate⟩

/-- Work on the copy is work on one and the same. -/
theorem agree_copy {act' : String → StateM (σ × τ) α} {act : String → StateM σ α}
    (h : ∀ path, Shadows (act' path) (act path)) (w : String × String) :
    Agree (Beneath (some w)) (act' w.1) (act w.2) := by
  refine ⟨fun s' s hs => ?_⟩
  have hsame : w.1 = w.2 := hs.1 w rfl
  rw [hsame]
  exact ((h w.2).beneath (some w)).run s' s hs

/-- Where the time is the same, so are the failures. -/
theorem eq_of_alike {r' r : Except CrawlError α} (h : Alike (Timed Eq id) r' r) : r' = r := by
  cases r' with
  | ok a' =>
      cases r with
      | ok a => exact congrArg Except.ok h
      | error e => exact h.elim
  | error e' =>
      cases r with
      | ok a => exact h.elim
      | error e =>
          cases h with
          | same hblame => rfl
          | transient hT => rw [hT]

theorem shadows_of_alike {act' : StateM (σ × τ) (Except CrawlError α)}
    {act : StateM σ (Except CrawlError α)}
    (h : Relates (Beneath none) act' act (fun r' r s' s => Alike (Timed Eq id) r' r ∧
      Beneath none s' s)) : Shadows act' act := by
  intro s
  obtain ⟨halike, _, hstate⟩ := h.run s s.1 ⟨fun _ hnone => (nomatch hnone), rfl⟩
  exact ⟨eq_of_alike halike, hstate⟩

/-- Every call of the first processor does what that of the second one does, notes aside. -/
structure Mimics (p' : Processor (StateM (σ × τ))) (p : Processor (StateM σ)) : Prop where
  idStart : p'.store.idStart = p.store.idStart
  tree : p'.tree = p.tree
  encoder : p'.encoder = p.encoder
  policy : p'.policy = p.policy
  location : p'.scratch.location = p.scratch.location
  present : ∀ id, Shadows (p'.store.present id).run (p.store.present id).run
  isContainer : ∀ id, Shadows (p'.store.isContainer id).run (p.store.isContainer id).run
  modified : ∀ id, Shadows (p'.store.modified id).run (p.store.modified id).run
  length : ∀ id, Shadows (p'.store.length id).run (p.store.length id).run
  children : ∀ id, Shadows (p'.store.children id).run (p.store.children id).run
  content : ∀ id, Shadows (p'.store.content id).run (p.store.content id).run
  access : ∀ id, Shadows (p'.store.access id).run (p.store.access id).run
  containerAccess : ∀ id,
    Shadows (p'.store.containerAccess id).run (p.store.containerAccess id).run
  create : Shadows p'.scratch.create.run p.scratch.create.run
  clear : ∀ path, Shadows (p'.scratch.clear path).run (p.scratch.clear path).run
  append : ∀ path piece,
    Shadows (p'.scratch.append path piece).run (p.scratch.append path piece).run
  read : ∀ path, Shadows (p'.scratch.read path).run (p.scratch.read path).run
  discard : ∀ path, Shadows (p'.scratch.discard path) (p.scratch.discard path)
  fingerprinter : ∀ path, Shadows (p'.fingerprinter path).run (p.fingerprinter path).run
  ingest : ∀ request content,
    Shadows (p'.sink.ingest request content).run (p.sink.ingest request content).run
  delete : ∀ id, Shadows (p'.sink.delete id).run (p.sink.delete id).run
  skip : ∀ id reason, Shadows (p'.sink.skip id reason).run (p.sink.skip id reason).run
  record : ∀ activity, Shadows (p'.sink.record activity) (p.sink.record activity)
  now : Shadows p'.monitor.now p.monitor.now
  isCancelled : Shadows p'.monitor.isCancelled p.monitor.isCancelled
  pause : ∀ delay, Shadows (p'.monitor.pause delay) (p.monitor.pause delay)
  warn : ∀ w, Shadows (p'.monitor.warn w) (p.monitor.warn w)

theorem Mimics.attends (h : Mimics p' p) (id : String) : Attends Eq Beneath id p' p where
  idStart := h.idStart
  tree := h.tree
  encoder := h.encoder
  policy := h.policy
  location := h.location
  present := (h.present id).beneath
  isContainer := (h.isContainer id).beneath
  modified := (h.modified id).beneath
  length := (h.length id).beneath
  children := (h.children id).beneath
  content := (h.content id).beneath
  access := (h.access id).beneath
  containerAccess := (h.containerAccess id).beneath
  create := by
    refine ⟨fun s' s hs => ?_⟩
    obtain ⟨hresult, _, hstate⟩ := (h.create.beneath none).run s' s hs
    -- both make the same copy
    rw [hresult]
    cases (p.scratch.create.run.run s).1 with
    | ok path => exact ⟨fun w hw => by cases hw; rfl, hstate⟩
    | error f => exact ⟨rfl, fun _ hnone => (nomatch hnone), hstate⟩
  clear := agree_copy h.clear
  append := fun w piece => agree_copy (fun path => h.append path piece) w
  read := agree_copy h.read
  discard := by
    refine fun w => ⟨fun s' s hs => ?_⟩
    obtain ⟨_, _, hstate⟩ := (agree_copy h.discard w).run s' s hs
    exact ⟨fun _ hnone => (nomatch hnone), hstate⟩
  fingerprinter := agree_copy h.fingerprinter
  ingest := fun c request content _ => (h.ingest request content).beneath c
  delete := (h.delete id).beneath
  skip := fun c reason => (h.skip id reason).beneath c
  record := by
    intro now' now r' r hnow hr
    obtain rfl : now' = now := hnow
    obtain rfl := eq_of_alike hr
    exact (h.record _).beneath none
  now := h.now.beneath
  isCancelled := h.isCancelled.beneath
  pause := fun c delay => (h.pause delay).beneath c
  warn := fun c w => (h.warn w).beneath c

theorem Mimics.process (h : Mimics p' p) (id : String) (known : Option String) :
    Shadows (p'.process id known) (p.process id known) := shadows_of_alike (h.attends id).process

/-- So a pass of the first one does what a pass of the second one does. -/
theorem Mimics.follows (h : Mimics p' p) (schedule : Schedule) :
    Follows (p'.pass schedule) (p.pass schedule) where
  process := h.process
  retire := fun id => shadows_of_alike (h.attends id).retire
  isCancelled := h.isCancelled
  warn := h.warn
  schedule := rfl

end Beneath

theorem watch_shadows (act : Action (StateM σ) α) (note : α → List Event) :
    Shadows (watch act note).run act.run := fun _ => ⟨rfl, rfl⟩

theorem observed_mimics (p : Processor (StateM σ)) : Mimics p.observed p where
  idStart := rfl
  tree := rfl
  encoder := rfl
  policy := rfl
  location := rfl
  present := fun _ => watch_shadows _ _
  isContainer := fun _ => watch_shadows _ _
  modified := fun _ => watch_shadows _ _
  length := fun _ => watch_shadows _ _
  children := fun _ => watch_shadows _ _
  content := fun _ => watch_shadows _ _
  access := fun _ => watch_shadows _ _
  containerAccess := fun _ => watch_shadows _ _
  create := watch_shadows _ _
  clear := fun _ => watch_shadows _ _
  append := fun _ _ => watch_shadows _ _
  read := fun _ => watch_shadows _ _
  discard := fun _ => .beside _
  fingerprinter := fun _ => watch_shadows _ _
  ingest := fun _ _ => watch_shadows _ _
  delete := fun _ => watch_shadows _ _
  skip := fun _ _ => watch_shadows _ _
  record := fun _ => .noting _ _
  now := .beside _
  isCancelled := .noting _ _
  pause := fun _ => .noting _ _
  warn := fun _ => .beside _

theorem fill_shadows (path : String) (content : Content) :
    Shadows (p.observed.scratch.fill path content).run (p.scratch.fill path content).run := by
  intro s
  have hfill := ((observed_mimics p).attends "").fill path path content
  obtain ⟨hresult, _, hstate⟩ := hfill.run s s.1 ⟨fun w hw => by cases hw; rfl, rfl⟩
  exact ⟨hresult, hstate⟩

/-- **Observation does not interfere.** A pass of the observed processor does what a pass of the
processor does. -/
theorem observed_follows (p : Processor (StateM σ)) (schedule : Schedule) :
    Follows (p.observed.pass schedule) (p.pass schedule) := (observed_mimics p).follows schedule

end Harvest
