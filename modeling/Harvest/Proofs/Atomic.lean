import Harvest.Proofs.Coverage
import Harvest.Proofs.Transcript

/-!
# One decision, one record

Whatever the store answers, whichever call fails and whenever the crawl is cancelled, processing an
entry has the receiver do one thing or nothing: on success the last decision that was put to it is
the outcome, and it is the only one that was carried out; on failure none was. Either way the
receiver is given one record, at the very end, that says which (`process_atomic`).

Several decisions may be put to the receiver, as it may turn them down. That only one is carried out
comes from the order of things: a decision ends the processing unless it is turned down, and what
then becomes of the entry is put to the receiver anew.
-/

namespace Harvest

variable {σ α : Type} {p : Processor (StateM σ)} {told : Option Outcome} {calls : List Call}

/-! ## What is asked of the receiver -/

/-- Whether the receiver is asked to take in, delete or skip an entry. -/
def Call.isDecision : Call → Bool
  | .ingest .. => true
  | .delete .. => true
  | .skip .. => true
  | _ => false

/-- Whether the receiver has carried out what it was asked. -/
def Call.isCarriedOut : Call → Bool
  | .ingest _ _ result => result.isOk
  | .delete _ result => result.isOk
  | .skip _ _ result => result.isOk
  | _ => false

/-- The decisions that are put to the receiver, in order. -/
def decisions (calls : List Call) : List Call := calls.filter Call.isDecision

/-- The receiver has carried out what the outcome says. -/
inductive Settles : Call → Outcome → Prop where
  | ingest {request : Delivery} {content : Content} {bytes : Nat} :
      Settles (.ingest request content (.ok bytes)) (.ingest request.id request.token bytes)
  | delete {id reason : String} : Settles (.delete id (.ok ())) (.delete id reason)
  | skip {id token : String} {reason : SkipReason} :
      Settles (.skip id reason (.ok ())) (.skip id reason token)

/-- Of the decisions put to the receiver, the last one is carried out, and is the outcome; without
an outcome, none is. -/
def Carried (told : Option Outcome) (calls : List Call) : Prop :=
  match told with
  | none => ∀ c ∈ decisions calls, c.isCarriedOut = false
  | some o => ∃ refused call, decisions calls = refused ++ [call] ∧
      (∀ c ∈ refused, c.isCarriedOut = false) ∧ Settles call o

theorem decisions_snoc (calls : List Call) (c : Call) :
    decisions (calls ++ [c]) =
      if c.isDecision then decisions calls ++ [c] else decisions calls := by
  rw [decisions, decisions, List.filter_append, List.filter_singleton]
  cases c.isDecision with
  | true => rfl
  | false => exact List.append_nil _

/-! ## One more call -/

/-- Nothing has been recorded, and the receiver was told `told`. -/
def Unrecorded (told : Option Outcome) (s : σ × List Call) : Prop :=
  records s.2 = [] ∧ Carried told s.2

/-- A call to anyone but the receiver. -/
def Call.IsSilent (c : Call) : Prop := c.isDecision = false ∧ c.activity? = none

/-- What is said to others is not told to the receiver. -/
theorem Carried.add (h : Carried told calls) {c : Call} (hc : c.isDecision = false) :
    Carried told (calls ++ [c]) := by
  unfold Carried
  rw [decisions_snoc, hc]
  exact h

theorem Unrecorded.add {s : σ × List Call} (h : Unrecorded told s) {c : Call} (hc : c.IsSilent)
    (t : σ) : Unrecorded told (t, s.2 ++ [c]) :=
  ⟨(records_snoc hc.2 _).trans h.1, h.2.add hc.1⟩

/-- A decision that the receiver turns down. -/
theorem Unrecorded.refuse {s : σ × List Call} (h : Unrecorded none s) {c : Call}
    (hdecision : c.isDecision = true) (hactivity : c.activity? = none)
    (hrefused : c.isCarriedOut = false) (t : σ) : Unrecorded none (t, s.2 ++ [c]) := by
  refine ⟨(records_snoc hactivity _).trans h.1, fun c' hc' => ?_⟩
  rw [decisions_snoc, if_pos hdecision] at hc'
  rcases List.mem_append.mp hc' with hold | hnew
  · exact h.2 c' hold
  · obtain rfl := List.mem_singleton.mp hnew
    exact hrefused

/-- A decision that the receiver carries out. -/
theorem Unrecorded.carry {s : σ × List Call} (h : Unrecorded none s) {c : Call} {o : Outcome}
    (hsettles : Settles c o) (t : σ) : Unrecorded (some o) (t, s.2 ++ [c]) := by
  have hdecision : c.isDecision = true := by cases hsettles <;> rfl
  have hactivity : c.activity? = none := by cases hsettles <;> rfl
  refine ⟨(records_snoc hactivity _).trans h.1, decisions s.2, c, ?_, h.2, hsettles⟩
  rw [decisions_snoc, if_pos hdecision]

/-! ## Deciding -/

variable {act : Action (StateM σ) α} {call : Except Failure α → Call}

theorem jot_silent (hsilent : ∀ r, (call r).IsSilent) :
    Quiet (Unrecorded none) (fun _ => True) (jot act call) := by
  refine ⟨fun s hs => ?_⟩
  change Upshot _ _ (act.run.run s.1).1 ((act.run.run s.1).2, s.2 ++ [call (act.run.run s.1).1])
  generalize act.run.run s.1 = r
  obtain ⟨r, t⟩ := r
  cases r with
  | ok a => exact hs.add (hsilent _) t
  | error f => exact ⟨hs.add (hsilent _) t, trivial⟩

theorem jot_decides {o : α → Outcome} (hsettles : ∀ a, Settles (call (.ok a)) (o a))
    (hdecision : ∀ f, (call (.error f)).isDecision = true)
    (hactivity : ∀ f, (call (.error f)).activity? = none)
    (hrefused : ∀ f, (call (.error f)).isCarriedOut = false) :
    Attempts (Unrecorded none) (jot act call) (fun a => Unrecorded (some (o a)))
      (fun _ s => Unrecorded none s ∧ True) := by
  refine ⟨fun s hs => ?_⟩
  change Upshot _ _ (act.run.run s.1).1 ((act.run.run s.1).2, s.2 ++ [call (act.run.run s.1).1])
  generalize act.run.run s.1 = r
  obtain ⟨r, t⟩ := r
  cases r with
  | ok a => exact hs.carry (hsettles a) t
  | error f => exact ⟨hs.refuse (hdecision f) (hactivity f) (hrefused f) t, trivial⟩

theorem beside_unrecorded (act : StateM σ α) :
    Steady Unrecorded (fun _ : σ × List Call => True) (beside act) :=
  ⟨fun _ => ⟨fun _ hs => hs⟩, kept_mark _⟩

/-- What a processor that leaves no records writes down. -/
theorem conduct_unrecorded (p : Processor (StateM σ)) :
    Conduct p.transcribed.unrecorded Unrecorded (fun _ => True) where
  present := fun _ => jot_silent (fun _ => ⟨rfl, rfl⟩)
  isContainer := fun _ => jot_silent (fun _ => ⟨rfl, rfl⟩)
  modified := fun _ => jot_silent (fun _ => ⟨rfl, rfl⟩)
  length := fun _ => jot_silent (fun _ => ⟨rfl, rfl⟩)
  access := fun _ => jot_silent (fun _ => ⟨rfl, rfl⟩)
  containerAccess := fun _ => jot_silent (fun _ => ⟨rfl, rfl⟩)
  children := fun _ => (jot_silent (fun _ => ⟨rfl, rfl⟩)).imp (fun _ hs => hs)
    (fun _ _ hs => ⟨hs, fun _ => trivial⟩) (fun _ _ hs => hs)
  content := fun _ => (jot_silent (fun _ => ⟨rfl, rfl⟩)).imp (fun _ hs => hs)
    (fun _ _ hs => ⟨hs, fun _ => trivial⟩) (fun _ _ hs => hs)
  create := jot_silent (fun _ => ⟨rfl, rfl⟩)
  clear := fun _ => jot_silent (fun _ => ⟨rfl, rfl⟩)
  append := fun _ _ => jot_silent (fun _ => ⟨rfl, rfl⟩)
  read := fun _ => jot_silent (fun _ => ⟨rfl, rfl⟩)
  discard := fun path =>
    ⟨fun _ => ⟨fun _ hs => hs.add (c := .discard path) ⟨rfl, rfl⟩ _⟩, kept_mark _⟩
  fingerprinter := fun _ => jot_silent (fun _ => ⟨rfl, rfl⟩)
  clear_mark := fun _ => kept_mark _
  append_mark := fun _ _ => kept_mark _
  ingest := fun _ _ => jot_decides (fun _ => .ingest) (fun _ => rfl) (fun _ => rfl) (fun _ => rfl)
  delete := fun _ _ => jot_decides (fun _ => .delete) (fun _ => rfl) (fun _ => rfl) (fun _ => rfl)
  delete_mark := fun _ => kept_mark _
  skip := fun _ _ _ => jot_decides (fun _ => .skip) (fun _ => rfl) (fun _ => rfl) (fun _ => rfl)
  record := fun _ => ⟨fun _ => Ensures.pure (fun _ hs => hs), kept_mark _⟩
  now := beside_unrecorded _
  warn := fun _ => beside_unrecorded _
  pause := fun _ => beside_unrecorded _
  isCancelled := ⟨fun _ hs => ⟨hs, fun _ => trivial⟩⟩

/-! ## The whole of processing -/

/-- What is known before the record is written. -/
def Decided (id : String) (result : Except CrawlError Outcome) (calls : List Call) : Prop :=
  records calls = [] ∧ match result with
    | .ok o => o.id = id ∧ Carried (some o) calls
    | .error _ => Carried none calls

theorem decided_of_came {p' : Processor (StateM (σ × List Call))} {F : σ × List Call → Prop}
    {id : String} {known : Option String} {result : Except CrawlError Outcome} {s : σ × List Call}
    (h : Upshot (Came p' Unrecorded F id known) (Mishap Unrecorded F id) result s) :
    Decided id result s.2 := by
  cases result with
  | error e => exact h.1.1
  | ok o =>
      obtain ⟨⟨hrecords, hcarried⟩, hverdict⟩ := h
      refine ⟨hrecords, ?_, hcarried⟩
      rcases hverdict with hverdict | ⟨⟨reason, rfl⟩, _⟩
      · exact hverdict.id_eq
      · rfl

/-- The record says what became of the entry. -/
def Attests (activity : Activity) (id : String) (result : Except CrawlError Outcome) : Prop :=
  activity.id = id ∧ match result with
    | .ok o => activity.kind = o.kind ∧ activity.bytes = o.bytes ∧ activity.error = none
    | .error e => activity.kind = (if e.isRetryable then .deferred else .failed) ∧
        activity.bytes = 0 ∧ activity.error = some e.display

theorem attests_ofResult (now : Moment) (id : String) (result : Except CrawlError Outcome) :
    Attests (.ofResult now id result) id result := by
  cases result with
  | ok o => exact ⟨rfl, rfl, rfl, rfl⟩
  | error e => exact ⟨rfl, rfl, rfl, rfl⟩

/-- Everything is decided before the one record is written. -/
theorem process_recorded (p : Processor (StateM σ)) (id : String) (known : Option String) :
    Ensures (Unrecorded none) (p.transcribed.process id known) (fun result s =>
      ∃ before activity, s.2 = before ++ [.record activity] ∧ Decided id result before ∧
        Attests activity id result) := by
  refine process_of_decision (conduct_unrecorded p) (fun result => ⟨fun s hs => ?_⟩)
  exact ⟨s.2, _, rfl, decided_of_came hs, attests_ofResult _ id result⟩

/-- **Processing an entry is atomic.** If it comes to an outcome, the receiver has carried out one
decision, the last that was put to it, and that is the outcome; if it fails, the receiver has
carried out nothing. Either way the one record of it comes last, and says which. -/
theorem process_atomic (p : Processor (StateM σ)) (id : String) (known : Option String) (s : σ) :
    let r := (p.transcribed.process id known).run (s, [])
    (p.process id known).run s = (r.1, r.2.1) ∧
      (match r.1 with
        | .ok o => o.id = id ∧ Carried (some o) r.2.2
        | .error _ => Carried none r.2.2) ∧
      ∃ before activity, r.2.2 = before ++ [.record activity] ∧ records before = [] ∧
        Attests activity id r.1 := by
  intro r
  have hstart : Unrecorded none (s, ([] : List Call)) := ⟨rfl, fun c hc => nomatch hc⟩
  obtain ⟨before, activity, hcalls, ⟨hrecords, hdecided⟩, hattests⟩ :=
    (process_recorded p id known).run (s, []) hstart
  -- the record is no decision
  have hmore : ∀ told, Carried told before → Carried told r.2.2 := fun told h =>
    hcalls ▸ h.add (c := .record activity) rfl
  refine ⟨transcribed_process p id known (s, []), ?_, before, activity, hcalls, hrecords, hattests⟩
  cases hr : r.1 with
  | ok o =>
      rw [hr] at hdecided
      exact ⟨hdecided.1, hmore _ hdecided.2⟩
  | error e =>
      rw [hr] at hdecided
      exact hmore _ hdecided

end Harvest
