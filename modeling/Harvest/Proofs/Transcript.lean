import Harvest.Proofs.Observed

/-!
# The transcript of a run

A transcribed processor writes down every call that it makes to the store, the receiver, the scratch
copies and the fingerprinter, each with what came of it, in the order in which they are made.
Writing them down changes nothing (`transcribed_mimics`). So what a transcript says is said of the
run itself: what the store answered in it, which calls failed and how, and what the receiver was
told.
-/

namespace Harvest

variable {σ α : Type}

/-- A call that a processor makes, with what came of it. -/
inductive Call where
  | present (id : String) (result : Except Failure Bool)
  | isContainer (id : String) (result : Except Failure Bool)
  | modified (id : String) (result : Except Failure Int64)
  | length (id : String) (result : Except Failure UInt64)
  | children (id : String) (result : Except Failure Listing)
  | content (id : String) (result : Except Failure Content)
  | access (id : String) (result : Except Failure (Option (List AccessEntry)))
  | containerAccess (id : String) (result : Except Failure (Option (List AccessEntry)))
  | create (result : Except Failure String)
  | clear (path : String) (result : Except Failure Unit)
  | append (path : String) (piece : ByteArray) (result : Except Failure Unit)
  | read (path : String) (result : Except Failure Content)
  | discard (path : String)
  | fingerprint (path : String) (result : Except Failure Fingerprint)
  | ingest (request : Delivery) (content : Content) (result : Except Failure Nat)
  | delete (id : String) (result : Except Failure Unit)
  | skip (id : String) (reason : SkipReason) (result : Except Failure Unit)
  | record (activity : Activity)

/-- An action that writes down what came of it. -/
def jot (act : Action (StateM σ) α) (call : Except Failure α → Call) :
    Action (StateM (σ × List Call)) α :=
  ExceptT.mk (noting act.run (fun r calls => calls ++ [call r]))

/-- The processor that writes down its calls. -/
def Processor.transcribed (p : Processor (StateM σ)) : Processor (StateM (σ × List Call)) where
  store :=
    { idStart := p.store.idStart
      present := fun id => jot (p.store.present id) (.present id)
      isContainer := fun id => jot (p.store.isContainer id) (.isContainer id)
      modified := fun id => jot (p.store.modified id) (.modified id)
      length := fun id => jot (p.store.length id) (.length id)
      children := fun id => jot (p.store.children id) (.children id)
      content := fun id => jot (p.store.content id) (.content id)
      access := fun id => jot (p.store.access id) (.access id)
      containerAccess := fun id => jot (p.store.containerAccess id) (.containerAccess id) }
  tree := p.tree
  encoder := p.encoder
  sink :=
    { ingest := fun request content => jot (p.sink.ingest request content) (.ingest request content)
      delete := fun id => jot (p.sink.delete id) (.delete id)
      skip := fun id reason => jot (p.sink.skip id reason) (.skip id reason)
      record := fun activity =>
        noting (p.sink.record activity) (fun _ calls => calls ++ [.record activity]) }
  scratch :=
    { location := p.scratch.location
      create := jot p.scratch.create .create
      clear := fun path => jot (p.scratch.clear path) (.clear path)
      append := fun path piece => jot (p.scratch.append path piece) (.append path piece)
      read := fun path => jot (p.scratch.read path) (.read path)
      discard := fun path =>
        noting (p.scratch.discard path) (fun _ calls => calls ++ [.discard path]) }
  fingerprinter := fun path => jot (p.fingerprinter path) (.fingerprint path)
  policy := p.policy
  monitor :=
    { now := beside p.monitor.now
      isCancelled := beside p.monitor.isCancelled
      pause := fun delay => beside (p.monitor.pause delay)
      warn := fun w => beside (p.monitor.warn w) }

theorem jot_shadows (act : Action (StateM σ) α) (call : Except Failure α → Call) :
    Shadows (jot act call).run act.run := fun _ => ⟨rfl, rfl⟩

/-- **Writing calls down does not interfere.** -/
theorem transcribed_mimics (p : Processor (StateM σ)) : Mimics p.transcribed p where
  idStart := rfl
  tree := rfl
  encoder := rfl
  policy := rfl
  location := rfl
  present := fun _ => jot_shadows _ _
  isContainer := fun _ => jot_shadows _ _
  modified := fun _ => jot_shadows _ _
  length := fun _ => jot_shadows _ _
  children := fun _ => jot_shadows _ _
  content := fun _ => jot_shadows _ _
  access := fun _ => jot_shadows _ _
  containerAccess := fun _ => jot_shadows _ _
  create := jot_shadows _ _
  clear := fun _ => jot_shadows _ _
  append := fun _ _ => jot_shadows _ _
  read := fun _ => jot_shadows _ _
  discard := fun _ => .noting _ _
  fingerprinter := fun _ => jot_shadows _ _
  ingest := fun _ _ => jot_shadows _ _
  delete := fun _ => jot_shadows _ _
  skip := fun _ _ => jot_shadows _ _
  record := fun _ => .noting _ _
  now := .beside _
  isCancelled := .beside _
  pause := fun _ => .beside _
  warn := fun _ => .beside _

/-- A watched run comes to the result and the state of the run. -/
theorem Shadows.run_eq {τ : Type} {act' : StateM (σ × τ) α} {act : StateM σ α}
    (h : Shadows act' act) (s : σ × τ) : act.run s.1 = ((act'.run s).1, (act'.run s).2.1) :=
  Prod.ext (h s).1.symm (h s).2.symm

theorem transcribed_process (p : Processor (StateM σ)) (id : String) (known : Option String)
    (s : σ × List Call) :
    (p.process id known).run s.1 = (((p.transcribed.process id known).run s).1,
      ((p.transcribed.process id known).run s).2.1) :=
  ((transcribed_mimics p).process id known).run_eq s

/-- The transcript holds these calls. -/
def Holds (calls : List Call) (s : σ × List Call) : Prop := calls ⊆ s.2

/-- What has been written down stays. -/
theorem Holds.add {calls : List Call} {s : σ × List Call} (h : Holds calls s) (c : Call) (t : σ) :
    Holds calls (t, s.2 ++ [c]) := List.subset_append_of_subset_left _ h

/-! ## Records -/

/-- The record that the receiver is given. -/
def Call.activity? : Call → Option Activity
  | .record activity => some activity
  | _ => none

/-- The records that the receiver is given, in order. -/
def records (calls : List Call) : List Activity := calls.filterMap Call.activity?

theorem records_snoc {c : Call} (h : c.activity? = none) (calls : List Call) :
    records (calls ++ [c]) = records calls := by
  rw [records, records, List.filterMap_append, List.filterMap_cons_none h, List.filterMap_nil,
    List.append_nil]

/-- The processor that leaves no records. It decides as the processor does. -/
def Processor.unrecorded {m : Type → Type} [Monad m] (p : Processor m) : Processor m :=
  { p with sink := { p.sink with record := fun _ => pure () } }

section Unrecorded

variable {m : Type → Type} [Monad m] (p : Processor m)

theorem delete_unrecorded : p.unrecorded.delete = p.delete := rfl

theorem skip_unrecorded : p.unrecorded.skip = p.skip := rfl

theorem describe_unrecorded : p.unrecorded.describe = p.describe := rfl

theorem children_unrecorded : p.unrecorded.children = p.children := rfl

theorem ingest_unrecorded : p.unrecorded.ingest = p.ingest := rfl

theorem decideEntry_unrecorded : p.unrecorded.decideEntry = p.decideEntry := by
  funext e known
  unfold Processor.decideEntry
  rw [delete_unrecorded, skip_unrecorded, children_unrecorded, ingest_unrecorded]
  rfl

theorem decide_unrecorded : p.unrecorded.decide = p.decide := by
  funext id known
  unfold Processor.decide
  rw [delete_unrecorded, describe_unrecorded, decideEntry_unrecorded]

theorem deleteIfAbsent_unrecorded : p.unrecorded.deleteIfAbsent = p.deleteIfAbsent := rfl

end Unrecorded

/-- **Processing is a decision and then its record.** What holds after the decision may be learned from
the processor that leaves no records. -/
theorem process_of_decision {p : Processor (StateM σ)} {At : Option Outcome → σ → Prop}
    {F : σ → Prop} (h : Conduct p.unrecorded At F) {id : String} {known : Option String}
    {post : Except CrawlError Outcome → σ → Prop}
    (hrecord : ∀ result,
      Ensures (Upshot (Came p.unrecorded At F id known) (Mishap At F id) result)
        (do
          p.sink.record (.ofResult (← p.monitor.now) id result)
          return result) post) : Ensures (At none) (p.process id known) post := by
  have hdecide := decide_spec h id known
  rw [decide_unrecorded] at hdecide
  refine Ensures.bind hdecide (fun decision => ?_)
  have hdelete : Attempts _ (p.unrecorded.deleteIfAbsent decision) (Came p.unrecorded At F id known)
      (Mishap At F id) := deleteIfAbsent_spec h decision
  rw [deleteIfAbsent_unrecorded] at hdelete
  exact Ensures.bind hdelete hrecord

/-- **What any call but a record may add to.** If a property of transcripts is kept when one more call
is written down that is no record, a processor that leaves no records keeps it. -/
theorem conduct_written (p : Processor (StateM σ)) (inv : List Call → Prop)
    (hmore : ∀ calls c, c.activity? = none → inv calls → inv (calls ++ [c])) :
    Conduct p.transcribed.unrecorded (Keeping (fun s => inv s.2)) (fun _ => True) where
  present := fun _ => kept_quiet ⟨fun _ hs => hmore _ _ rfl hs⟩
  isContainer := fun _ => kept_quiet ⟨fun _ hs => hmore _ _ rfl hs⟩
  modified := fun _ => kept_quiet ⟨fun _ hs => hmore _ _ rfl hs⟩
  length := fun _ => kept_quiet ⟨fun _ hs => hmore _ _ rfl hs⟩
  access := fun _ => kept_quiet ⟨fun _ hs => hmore _ _ rfl hs⟩
  containerAccess := fun _ => kept_quiet ⟨fun _ hs => hmore _ _ rfl hs⟩
  children := fun _ => kept_attempts ⟨fun _ hs => hmore _ _ rfl hs⟩ _
  content := fun _ => kept_attempts ⟨fun _ hs => hmore _ _ rfl hs⟩ _
  create := kept_quiet ⟨fun _ hs => hmore _ _ rfl hs⟩
  clear := fun _ => kept_quiet ⟨fun _ hs => hmore _ _ rfl hs⟩
  append := fun _ _ => kept_quiet ⟨fun _ hs => hmore _ _ rfl hs⟩
  read := fun _ => kept_quiet ⟨fun _ hs => hmore _ _ rfl hs⟩
  discard := fun path => kept_steady ⟨fun _ hs => hmore _ (.discard path) rfl hs⟩
  fingerprinter := fun _ => kept_quiet ⟨fun _ hs => hmore _ _ rfl hs⟩
  clear_mark := fun _ => kept_mark _
  append_mark := fun _ _ => kept_mark _
  ingest := fun _ _ => kept_quiet ⟨fun _ hs => hmore _ _ rfl hs⟩
  delete := fun _ _ => kept_quiet ⟨fun _ hs => hmore _ _ rfl hs⟩
  delete_mark := fun _ => kept_mark _
  skip := fun _ _ _ => kept_quiet ⟨fun _ hs => hmore _ _ rfl hs⟩
  record := fun _ => kept_steady ⟨fun _ hs => hs⟩
  now := kept_steady ⟨fun _ hs => hs⟩
  warn := fun _ => kept_steady ⟨fun _ hs => hs⟩
  pause := fun _ => kept_steady ⟨fun _ hs => hs⟩
  isCancelled := ⟨fun _ hs => ⟨hs, fun _ => trivial⟩⟩

end Harvest
