import Harvest.Proofs.Inclusion
import Harvest.Proofs.Observed
import Harvest.Proofs.VersionToken

/-!
# Stores that stand still

While a pass goes on, the store holds the same (`Snapshot`): whatever it answers, it answers from
that, though it may fail to answer. What processing then comes to is a function of the snapshot and
of the token known before (`Processor.plan`), apart from the deletions that failures lead to.

`Processor.due` is what the receiver should hold of an entry that a pass reaches: its version, if it
is a leaf that the rules accept. Processing tells the receiver just that, unless it relies on the
token known before, or meets a container.
-/

namespace Harvest

variable {σ : Type} {p : Processor (StateM σ)} {inv : σ → Prop} {before : List Event}
  {id : String} {known : Option String} {o : Outcome}

/-- What a store holds. -/
structure Snapshot where
  present : String → Bool
  isContainer : String → Bool
  modified : String → Int64
  length : String → UInt64
  children : String → List String
  content : String → ByteArray
  access : String → Option (List AccessEntry)
  containerAccess : String → Option (List AccessEntry)

/-- The entry of an identifier, with the access lists that the settings ask for. -/
def Snapshot.entry (S : Snapshot) (enc : Encoder) (id : String) : Entry where
  id := id
  kind := if S.isContainer id then .container else .leaf
  length := if S.isContainer id then 0 else S.length id
  modified := S.modified id
  access := if enc.entryAccess = .native then S.access id else none
  containerAccess := if enc.containerAccess = .native then S.containerAccess id else none

/-- Every state shows a snapshot of the store. The calls of the processor leave it as it is, and
what the store answers is what the snapshot says. The fingerprint of a fresh copy is judged by the
bytes that were copied. -/
structure Mirrors (p : Processor (StateM σ)) (view : σ → Snapshot) (judge : ByteArray → Bool) :
    Prop where
  keeps : ∀ S, Conduct p (Keeping (fun s => view s = S)) (fun _ => True)
  present : ∀ s id a, ((p.store.present id).run.run s).1 = .ok a → a = (view s).present id
  isContainer : ∀ s id a, ((p.store.isContainer id).run.run s).1 = .ok a →
    a = (view s).isContainer id
  modified : ∀ s id a, ((p.store.modified id).run.run s).1 = .ok a → a = (view s).modified id
  length : ∀ s id a, ((p.store.length id).run.run s).1 = .ok a → a = (view s).length id
  access : ∀ s id a, ((p.store.access id).run.run s).1 = .ok a → a = (view s).access id
  containerAccess : ∀ s id a, ((p.store.containerAccess id).run.run s).1 = .ok a →
    a = (view s).containerAccess id
  children : ∀ s id a, ((p.store.children id).run.run s).1 = .ok a → a.failure = none →
    a.children = (view s).children id
  content : ∀ s id a, ((p.store.content id).run.run s).1 = .ok a → a.failure = none →
    a.bytes = (view s).content id
  fingerprint : ∀ s s' path content f, (p.scratch.fill path content).run.run s = (.ok (), s') →
    ((p.fingerprinter path).run.run s').1 = .ok f → f.indexable = judge content.bytes

/-- The calls of the processor keep `inv`. What the store answers in states with `inv` is what the
snapshot says, and what comes of fingerprinting a fresh copy is the same each time. -/
structure Still (p : Processor (StateM σ)) (inv : σ → Prop) (S : Snapshot)
    (verdict : String → Bool) : Prop where
  keeps : Conduct p (Keeping inv) (fun _ => True)
  present : ∀ id a, Answers inv (p.store.present id) a → a = S.present id
  isContainer : ∀ id a, Answers inv (p.store.isContainer id) a → a = S.isContainer id
  modified : ∀ id a, Answers inv (p.store.modified id) a → a = S.modified id
  length : ∀ id a, Answers inv (p.store.length id) a → a = S.length id
  access : ∀ id a, Answers inv (p.store.access id) a → a = S.access id
  containerAccess : ∀ id a, Answers inv (p.store.containerAccess id) a → a = S.containerAccess id
  children : ∀ id a, Answers inv (p.store.children id) a → a.failure = none →
    a.children = S.children id
  fingerprint : ∀ id f, Fingerprinted p inv id f → f.indexable = verdict id

/-! ## What should become of an entry -/

/-- Whether a leaf is handed over, going by the flag of its version. -/
def Processor.welcomes (p : Processor (StateM σ)) (e : Entry) (indexable : Bool) : Bool :=
  match (Version.ofToken (p.token e)).ambiguity with
  | .forcedExclude => false
  | .forcedInclude => true
  | .dependsOnContent => p.tree.wouldInclude e indexable

/-- Whether the entry is there, and not excluded for what it is. -/
def Processor.admits (p : Processor (StateM σ)) (S : Snapshot) (id : String) : Bool :=
  S.present id && p.tree.mayInclude (S.entry p.encoder id)

/-- What the receiver should hold of an entry that is reached: the version of a leaf that is
accepted.
-/
def Processor.due (p : Processor (StateM σ)) (judge : ByteArray → Bool) (S : Snapshot)
    (id : String) : Option String :=
  if p.admits S id && !S.isContainer id &&
      p.welcomes (S.entry p.encoder id) (judge (S.content id)) then
    some (p.token (S.entry p.encoder id))
  else none

/-- What processing makes of an entry: it hands it over, has it deleted, opens it, or relies on what
is known of it. -/
inductive Plan where
  | take
  | drop
  | enter
  | keep
deriving DecidableEq

/-- What an outcome makes of its entry. -/
def Outcome.plan : Outcome → Plan
  | .ingest .. => .take
  | .delete .. => .drop
  | .skip _ (.container _) _ => .enter
  | .skip _ .unchanged _ => .keep

/-- What becomes of an entry when nothing fails. -/
def Processor.plan (p : Processor (StateM σ)) (S : Snapshot) (verdict : String → Bool) (id : String)
    (known : Option String) : Plan :=
  if !p.admits S id then .drop
  else if S.isContainer id then .enter
  else if known = some (p.token (S.entry p.encoder id)) then .keep
  else if p.welcomes (S.entry p.encoder id) (verdict id) then .take
  else .drop

/-- The outcome is the one that the store and the token known before lead to. -/
structure Planned (p : Processor (StateM σ)) (S : Snapshot) (verdict : String → Bool) (id : String)
    (known : Option String) (o : Outcome) : Prop where
  own : o.id = id
  plan : o.plan = p.plan S verdict id known
  children : o.children = if p.admits S id && S.isContainer id then S.children id else []
  token : o.token? = if o.plan = .drop then none else some (p.token (S.entry p.encoder id))

/-- The outcomes of an entry when nothing fails. -/
inductive Judged (p : Processor (StateM σ)) (judge : ByteArray → Bool) (S : Snapshot) (id : String)
    (known : Option String) : Outcome → Prop where
  /-- A leaf is handed over. -/
  | taken {token : String} {bytes : Nat} (hdue : p.due judge S id = some token)
      (hadmits : p.admits S id = true) (hkind : S.isContainer id = false)
      (htoken : token = p.token (S.entry p.encoder id)) (hnew : known ≠ some token) :
      Judged p judge S id known (.ingest id token bytes)
  /-- Nothing is to be held of the entry. -/
  | dropped {reason : String} (hdue : p.due judge S id = none)
      (hclosed : p.admits S id = false ∨ S.isContainer id = false ∧
        known ≠ some (p.token (S.entry p.encoder id))) :
      Judged p judge S id known (.delete id reason)
  /-- A container is opened. -/
  | opened {token : String} (hadmits : p.admits S id = true) (hkind : S.isContainer id = true)
      (htoken : token = p.token (S.entry p.encoder id)) :
      Judged p judge S id known (.skip id (.container (S.children id)) token)
  /-- A leaf has the token known before. -/
  | unchanged {token : String} (hadmits : p.admits S id = true) (hkind : S.isContainer id = false)
      (hknown : known = some token) (htoken : token = p.token (S.entry p.encoder id)) :
      Judged p judge S id known (.skip id .unchanged token)

theorem entry_isContainer (S : Snapshot) (enc : Encoder) (id : String) :
    (S.entry enc id).isContainer = S.isContainer id := by
  unfold Snapshot.entry Entry.isContainer
  cases S.isContainer id <;> rfl

/-! ## Answers of the store -/

/-- A copy is made of nothing but whole content. -/
theorem whole_of_fill {path : String} {content : Content} {s s' : σ}
    (h : (p.scratch.fill path content).run.run s = (.ok (), s')) : content.failure = none := by
  have hleads : Leads (fun t => t = s) (p.scratch.fill path content) () s' := ⟨s, rfl, h⟩
  obtain ⟨_, s₁, _, hrest⟩ := leads_bind hleads
  obtain ⟨_, _, _, hlast⟩ := leads_bind
    (⟨s₁, rfl, hrest⟩ : Leads (fun t => t = s₁) _ _ _)
  cases hf : content.failure with
  | none => rfl
  | some f =>
      rw [hf] at hlast
      cases hlast

variable {view : σ → Snapshot} {judge : ByteArray → Bool} {S : Snapshot} {verdict : String → Bool}
  {e : Entry}

/-- What is true of the answer in every state with the snapshot is true of the snapshot. -/
theorem of_answers {α : Type} {act : Action (StateM σ) α} {a : α} {c : Snapshot → Prop}
    (h : Answers (fun s => view s = S) act a)
    (hc : ∀ s, (act.run.run s).1 = .ok a → c (view s)) : c S := by
  obtain ⟨_, s, rfl, hrun⟩ := h
  exact hc s (congrArg Prod.fst hrun)

/-- A store that mirrors what it holds stands still while it holds the same. -/
theorem Mirrors.still (hm : Mirrors p view judge) (S : Snapshot) :
    Still p (fun s => view s = S) S (fun id => judge (S.content id)) where
  keeps := hm.keeps S
  present := fun id a h => of_answers (c := (a = ·.present id)) h (hm.present · id a)
  isContainer := fun id a h => of_answers (c := (a = ·.isContainer id)) h (hm.isContainer · id a)
  modified := fun id a h => of_answers (c := (a = ·.modified id)) h (hm.modified · id a)
  length := fun id a h => of_answers (c := (a = ·.length id)) h (hm.length · id a)
  access := fun id a h => of_answers (c := (a = ·.access id)) h (hm.access · id a)
  containerAccess := fun id a h =>
    of_answers (c := (a = ·.containerAccess id)) h (hm.containerAccess · id a)
  children := fun id a h hcomplete =>
    of_answers (c := (a.children = ·.children id)) h (hm.children · id a · hcomplete)
  fingerprint := by
    intro id f h
    obtain ⟨path, s', hcopy, hf⟩ := h
    obtain ⟨content, s, ⟨s₀, rfl, hcontent⟩, hfill⟩ := leads_bind hcopy
    have hbytes := hm.content s₀ id content (congrArg Prod.fst hcontent) (whole_of_fill hfill)
    rw [← hbytes]
    exact hm.fingerprint s s' path content f hfill hf

/-! ## Observation does not change the answers -/

theorem run_of_watch {α : Type} {act : Action (StateM σ) α} {note : α → List Event} {a : α}
    {s s' : σ × List Event} (h : (watch act note).run.run s = (.ok a, s')) :
    act.run.run s.1 = (.ok a, s'.1) := by
  have hanswer : (act.run.run s.1).1 = .ok a := congrArg Prod.fst h
  have hstate : (act.run.run s.1).2 = s'.1 := congrArg (fun r => r.2.1) h
  exact Prod.ext hanswer hstate

theorem Answers.unobserved {α : Type} {act : Action (StateM σ) α} {note : α → List Event} {a : α}
    {told : Option Outcome} (h : Answers (Noted inv before told) (watch act note) a) :
    Answers inv act a := by
  obtain ⟨s', s, hs, hrun⟩ := h
  exact ⟨s'.1, s.1, hs.1, run_of_watch hrun⟩

theorem Described.unobserved (h : Described p.observed (Noted inv before none) e) :
    Described p inv e where
  present := h.present.unobserved
  kind := h.kind.unobserved
  modified := h.modified.unobserved
  length := by
    have hlength := h.length
    split at hlength
    · rwa [if_pos ‹_›]
    · rw [if_neg ‹_›]
      exact hlength.unobserved
  access := by
    have haccess := h.access
    change if p.encoder.entryAccess = .native then _ else _ at haccess
    split at haccess
    · rw [if_pos ‹_›]
      exact haccess.unobserved
    · rwa [if_neg ‹_›]
  containerAccess := by
    have haccess := h.containerAccess
    change if p.encoder.containerAccess = .native then _ else _ at haccess
    split at haccess
    · rw [if_pos ‹_›]
      exact haccess.unobserved
    · rwa [if_neg ‹_›]

theorem Fingerprinted.unobserved {f : Fingerprint}
    (h : Fingerprinted p.observed (Noted inv before none) id f) : Fingerprinted p inv id f := by
  obtain ⟨path, s', hcopy, hf⟩ := h
  obtain ⟨content, s, ⟨s₀, hs₀, hcontent⟩, hfill⟩ := leads_bind hcopy
  refine ⟨path, s'.1, ⟨s₀.1, hs₀.1, ?_⟩, hf⟩
  -- observation aside, the copy is the processor's own
  have hown := fill_shadows (p := p) path content s
  rw [hfill] at hown
  rw [ExceptT.run_bind, StateT.run_bind, run_of_watch hcontent]
  exact Prod.ext hown.1.symm hown.2.symm

/-- An observed processor goes by the same rules and settings, so it comes to the same verdicts. -/
theorem Verdict.unobserved (h : Verdict p.observed (Noted inv before none) id known o) :
    Verdict p inv id known o := by
  cases h with
  | gone habsent => exact .gone habsent.unobserved
  | excluded he hid hrules => exact .excluded he.unobserved hid hrules
  | container he hid hrules hkind hlisting hcomplete =>
      exact .container he.unobserved hid hrules hkind hlisting.unobserved hcomplete
  | unchanged he hid hrules hkind hknown => exact .unchanged he.unobserved hid hrules hkind hknown
  | refused he hid hrules hkind hnew hflag =>
      exact .refused he.unobserved hid hrules hkind hnew hflag
  | accepted he hid hrules hkind hnew hflag =>
      exact .accepted he.unobserved hid hrules hkind hnew hflag
  | welcome he hid hrules hkind hnew hflag hf haccept =>
      exact .welcome he.unobserved hid hrules hkind hnew hflag hf.unobserved haccept
  | unwelcome he hid hrules hkind hnew hflag hf hreject =>
      exact .unwelcome he.unobserved hid hrules hkind hnew hflag hf.unobserved hreject

/-! ## What processing comes to -/

/-- The store describes an entry as the snapshot has it. -/
theorem Still.entry_eq (hs : Still p inv S verdict) (h : Described p inv e) :
    e = S.entry p.encoder e.id := by
  have hkind := hs.isContainer _ _ h.kind
  have hmodified := hs.modified _ _ h.modified
  have hlength : e.length = if S.isContainer e.id then 0 else S.length e.id := by
    have hlength := h.length
    rw [hkind] at hlength
    split at hlength
    · rwa [if_pos ‹_›]
    · rw [if_neg ‹_›]
      exact hs.length _ _ hlength
  have haccess : e.access = if p.encoder.entryAccess = .native then S.access e.id else none := by
    have haccess := h.access
    split at haccess
    · rw [if_pos ‹_›]
      exact hs.access _ _ haccess
    · rwa [if_neg ‹_›]
  have hcontainer : e.containerAccess =
      if p.encoder.containerAccess = .native then S.containerAccess e.id else none := by
    have haccess := h.containerAccess
    split at haccess
    · rw [if_pos ‹_›]
      exact hs.containerAccess _ _ haccess
    · rwa [if_neg ‹_›]
  obtain ⟨id, kind, length, modified, access, containerAccess⟩ := e
  have hkind : kind = if S.isContainer id then .container else .leaf := by
    change (kind == EntryKind.container) = S.isContainer id at hkind
    rw [← hkind]
    cases kind <;> rfl
  dsimp only at hlength hmodified haccess hcontainer
  rw [hkind, hlength, hmodified, haccess, hcontainer]
  rfl

theorem admits_of_rules (hpresent : S.present id = true) {b : Bool}
    (hrules : p.tree.mayInclude (S.entry p.encoder id) = b) : p.admits S id = b := by
  unfold Processor.admits
  rw [hpresent, hrules, Bool.true_and]

/-- The rules are asked about the entry as the snapshot has it. -/
theorem Still.described (hs : Still p inv S verdict) (h : Described p inv e) (hid : e.id = id) :
    e = S.entry p.encoder id ∧ e.isContainer = S.isContainer id ∧
      p.admits S id = p.tree.mayInclude e := by
  obtain rfl := hid
  have hentry := hs.entry_eq h
  exact ⟨hentry, hs.isContainer _ _ h.kind,
    admits_of_rules (hs.present _ _ h.present).symm (congrArg p.tree.mayInclude hentry.symm)⟩

/-- What the receiver should hold of a container is nothing. -/
theorem due_container (h : S.isContainer id = true) : p.due judge S id = none := by
  unfold Processor.due
  rw [h, Bool.not_true, Bool.and_false, Bool.false_and]
  exact if_neg Bool.false_ne_true

theorem due_excluded (h : p.admits S id = false) : p.due judge S id = none := by
  unfold Processor.due
  rw [h, Bool.false_and, Bool.false_and]
  exact if_neg Bool.false_ne_true

theorem due_leaf (hadmits : p.admits S id = true) (hkind : S.isContainer id = false) :
    p.due judge S id = if p.welcomes (S.entry p.encoder id) (judge (S.content id)) = true then
      some (p.token (S.entry p.encoder id)) else none := by
  unfold Processor.due
  rw [hadmits, hkind, Bool.not_false, Bool.true_and, Bool.true_and]

/-- A leaf is handed over as the flag of its version says, or by its content. -/
theorem welcomes_of_exclude (h : (Version.ofToken (p.token e)).ambiguity = .forcedExclude)
    (indexable : Bool) : p.welcomes e indexable = false := by
  unfold Processor.welcomes
  rw [h]

theorem welcomes_of_include (h : (Version.ofToken (p.token e)).ambiguity = .forcedInclude)
    (indexable : Bool) : p.welcomes e indexable = true := by
  unfold Processor.welcomes
  rw [h]

theorem welcomes_of_content (h : (Version.ofToken (p.token e)).ambiguity = .dependsOnContent)
    (indexable : Bool) : p.welcomes e indexable = p.tree.wouldInclude e indexable := by
  unfold Processor.welcomes
  rw [h]

theorem plan_closed (h : p.admits S id = false) : p.plan S verdict id known = .drop := by
  unfold Processor.plan
  rw [h, Bool.not_false, if_pos rfl]

theorem plan_open (hadmits : p.admits S id = true) (hkind : S.isContainer id = true) :
    p.plan S verdict id known = .enter := by
  unfold Processor.plan
  rw [hadmits, hkind, Bool.not_true, if_neg Bool.false_ne_true, if_pos rfl]

theorem plan_leaf (hadmits : p.admits S id = true) (hkind : S.isContainer id = false) :
    p.plan S verdict id known =
      if known = some (p.token (S.entry p.encoder id)) then .keep
      else if p.welcomes (S.entry p.encoder id) (verdict id) then .take
      else .drop := by
  unfold Processor.plan
  rw [hadmits, hkind, Bool.not_true, if_neg Bool.false_ne_true, if_neg Bool.false_ne_true]

/-- What each plan says of the entry. -/
theorem plan_spec (p : Processor (StateM σ)) (S : Snapshot) (verdict : String → Bool) (id : String)
    (known : Option String) :
    match p.plan S verdict id known with
    | .take => p.admits S id = true ∧ S.isContainer id = false ∧
        p.welcomes (S.entry p.encoder id) (verdict id) = true ∧
        known ≠ some (p.token (S.entry p.encoder id))
    | .drop => p.admits S id = false ∨ p.admits S id = true ∧ S.isContainer id = false ∧
        p.welcomes (S.entry p.encoder id) (verdict id) = false ∧
        known ≠ some (p.token (S.entry p.encoder id))
    | .enter => p.admits S id = true ∧ S.isContainer id = true
    | .keep => p.admits S id = true ∧ S.isContainer id = false ∧
        known = some (p.token (S.entry p.encoder id)) := by
  cases hadmits : p.admits S id with
  | false =>
      rw [plan_closed hadmits]
      exact Or.inl rfl
  | true =>
      cases hkind : S.isContainer id with
      | true =>
          rw [plan_open hadmits hkind]
          exact ⟨rfl, rfl⟩
      | false =>
          rw [plan_leaf hadmits hkind]
          by_cases hknown : known = some (p.token (S.entry p.encoder id))
          · rw [if_pos hknown]
            exact ⟨rfl, rfl, hknown⟩
          · rw [if_neg hknown]
            cases hwelcome : p.welcomes (S.entry p.encoder id) (verdict id) with
            | true => exact ⟨rfl, rfl, rfl, hknown⟩
            | false => exact Or.inr ⟨rfl, rfl, rfl, hknown⟩

/-- **What processing comes to is a matter of the store and of the token known before.** -/
theorem planned_of_verdict (hs : Still p inv S verdict) (h : Verdict p inv id known o) :
    Planned p S verdict id known o := by
  -- of a leaf that is new, the plan hinges on whether it is welcome
  have hleaf : ∀ {e : Entry} {b : Bool}, Described p inv e → e.id = id →
      p.tree.mayInclude e = true → e.isContainer = false → known ≠ some (p.token e) →
      p.welcomes e (verdict id) = b → e = S.entry p.encoder id ∧ p.admits S id = true ∧
        S.isContainer id = false ∧ p.plan S verdict id known = if b then .take else .drop := by
    intro e b he hid hrules hkind hnew hwelcome
    obtain ⟨rfl, hsame, hadmits⟩ := hs.described he hid
    rw [hrules] at hadmits
    rw [hkind] at hsame
    exact ⟨rfl, hadmits, hsame.symm, by rw [plan_leaf hadmits hsame.symm, if_neg hnew, hwelcome]⟩
  cases h with
  | gone habsent =>
      have hadmits : p.admits S id = false := by
        unfold Processor.admits
        rw [← hs.present _ _ habsent, Bool.false_and]
      exact ⟨rfl, (plan_closed hadmits).symm, by rw [hadmits]; rfl, rfl⟩
  | excluded he hid hrules =>
      obtain ⟨rfl, _, hadmits⟩ := hs.described he hid
      rw [hrules] at hadmits
      exact ⟨rfl, (plan_closed hadmits).symm, by rw [hadmits]; rfl, rfl⟩
  | container he hid hrules hkind hlisting hcomplete =>
      obtain ⟨rfl, hsame, hadmits⟩ := hs.described he hid
      rw [hrules] at hadmits
      rw [hkind] at hsame
      refine ⟨rfl, (plan_open hadmits hsame.symm).symm, ?_, rfl⟩
      rw [hadmits, ← hsame]
      exact hs.children _ _ hlisting hcomplete
  | unchanged he hid hrules hkind hknown =>
      obtain ⟨rfl, hsame, hadmits⟩ := hs.described he hid
      rw [hrules] at hadmits
      rw [hkind] at hsame
      exact ⟨rfl, ((plan_leaf hadmits hsame.symm).trans (if_pos hknown)).symm,
        by rw [← hsame, Bool.and_false]; rfl, rfl⟩
  | refused he hid hrules hkind hnew hflag =>
      obtain ⟨_, _, hsame, hplan⟩ :=
        hleaf he hid hrules hkind hnew (welcomes_of_exclude hflag _)
      exact ⟨rfl, hplan.symm, by rw [hsame, Bool.and_false]; rfl, rfl⟩
  | accepted he hid hrules hkind hnew hflag =>
      obtain ⟨rfl, _, hsame, hplan⟩ :=
        hleaf he hid hrules hkind hnew (welcomes_of_include hflag _)
      exact ⟨rfl, hplan.symm, by rw [hsame, Bool.and_false]; rfl, rfl⟩
  | welcome he hid hrules hkind hnew hflag hf haccept =>
      rw [hs.fingerprint _ _ hf] at haccept
      obtain ⟨rfl, _, hsame, hplan⟩ :=
        hleaf he hid hrules hkind hnew ((welcomes_of_content hflag _).trans haccept)
      exact ⟨rfl, hplan.symm, by rw [hsame, Bool.and_false]; rfl, rfl⟩
  | unwelcome he hid hrules hkind hnew hflag hf hreject =>
      rw [hs.fingerprint _ _ hf] at hreject
      obtain ⟨_, _, hsame, hplan⟩ :=
        hleaf he hid hrules hkind hnew ((welcomes_of_content hflag _).trans hreject)
      exact ⟨rfl, hplan.symm, by rw [hsame, Bool.and_false]; rfl, rfl⟩

/-- The plan says of an outcome what becomes of the entry, and what the receiver should hold of it.
-/
theorem Planned.judged (h : Planned p S (fun id => judge (S.content id)) id known o) :
    Judged p judge S id known o := by
  obtain ⟨hown, hplan, hchildren, htoken⟩ := h
  have hspec := plan_spec p S (fun id => judge (S.content id)) id known
  rw [← hplan] at hspec
  cases o with
  | ingest id' token bytes =>
      obtain rfl : id' = id := hown
      obtain ⟨hadmits, hkind, hwelcome, hnew⟩ := hspec
      obtain rfl : token = p.token (S.entry p.encoder id') := Option.some.inj htoken
      refine .taken ?_ hadmits hkind rfl hnew
      exact (due_leaf hadmits hkind).trans ((if_pos hwelcome).trans htoken.symm)
  | delete id' reason =>
      obtain rfl : id' = id := hown
      rcases hspec with hclosed | ⟨hadmits, hkind, hreject, hnew⟩
      · exact .dropped (due_excluded hclosed) (Or.inl hclosed)
      · refine .dropped ?_ (Or.inr ⟨hkind, hnew⟩)
        rw [due_leaf hadmits hkind, hreject, if_neg Bool.false_ne_true]
  | skip id' reason token =>
      obtain rfl : id' = id := hown
      cases reason with
      | unchanged =>
          obtain ⟨hadmits, hkind, hknown⟩ := hspec
          have htoken := Option.some.inj htoken
          exact .unchanged hadmits hkind (htoken ▸ hknown) htoken
      | container children =>
          obtain ⟨hadmits, hkind⟩ := hspec
          rw [hadmits, hkind] at hchildren
          obtain rfl : children = S.children id' := hchildren
          exact .opened hadmits hkind (Option.some.inj htoken)

/-! ## What a token stands for -/

variable {S' : Snapshot} {e' : Entry}

/-- A leaf that is there both times, with the same modification time and the same length, has the
same content. -/
def KeepsContent (S S' : Snapshot) (id : String) : Prop :=
  S.present id = true → S'.present id = true → S.isContainer id = false →
    S'.isContainer id = false → S.modified id = S'.modified id → S.length id = S'.length id →
    S.content id = S'.content id

instance (S S' : Snapshot) (id : String) : Decidable (KeepsContent S S' id) :=
  inferInstanceAs (Decidable (_ → _ → _ → _ → _ → _ → _))

theorem KeepsContent.refl (S : Snapshot) (id : String) : KeepsContent S S id :=
  fun _ _ _ _ _ _ => rfl

theorem welcomes_congr (htoken : p.token e = p.token e') (hid : e.id = e'.id)
    (hkind : e.kind = e'.kind) (hlength : e.length = e'.length) (indexable : Bool) :
    p.welcomes e indexable = p.welcomes e' indexable := by
  unfold Processor.welcomes RuleTree.wouldInclude
  rw [htoken, includes_congr p.tree hid hkind hlength]

theorem present_of_admits (h : p.admits S id = true) : S.present id = true := by
  unfold Processor.admits at h
  exact (Bool.and_eq_true_iff.mp h).1

/-- **The token of a leaf stands for what should become of it.** -/
theorem due_congr (hadmits : p.admits S id = true) (hadmits' : p.admits S' id = true)
    (hleaf : S.isContainer id = false) (hleaf' : S'.isContainer id = false)
    (htoken : p.token (S.entry p.encoder id) = p.token (S'.entry p.encoder id))
    (h : KeepsContent S S' id) : p.due judge S id = p.due judge S' id := by
  -- the token holds modification time and length, and these tell the content
  have hversion := Version.token_inj htoken
  have hmodified : S.modified id = S'.modified id := congrArg Version.modified hversion
  have hlengths : (S.entry p.encoder id).length = (S'.entry p.encoder id).length :=
    congrArg Version.length hversion
  have hlength : S.length id = S'.length id := by
    unfold Snapshot.entry at hlengths
    rw [hleaf, hleaf'] at hlengths
    exact hlengths
  have hkind : (S.entry p.encoder id).kind = (S'.entry p.encoder id).kind := by
    unfold Snapshot.entry
    rw [hleaf, hleaf']
  have hcontent := h (present_of_admits hadmits) (present_of_admits hadmits') hleaf hleaf'
    hmodified hlength
  have hwelcome := welcomes_congr htoken rfl hkind hlengths (judge (S'.content id))
  rw [due_leaf hadmits hleaf, due_leaf hadmits' hleaf', hcontent, hwelcome, htoken]

end Harvest
