import Harvest.Proofs.FirstPass
import Harvest.Store.Objects

/-!
# Services that may fail

What a service holds is what it answers if it never fails, a service without a state. One that may
fail follows it (`ObjectService.Follows`): it answers the same, or fails in a way of its own. A store
takes the failure that says that there is no such key for an answer, so this one is no way of its own
to fail.

What is put together from calls that follow answers follows what is put together from the answers
(`Echoes.bind`), so with the service its store does (`ObjectService.Follows.store`). And a store that
follows the same answers all the time stands still (`Store.Follows.still`).
-/

namespace Harvest

open ObjectService (saysAbsent)

variable {σ α β : Type} {inv : σ → Prop} {act : Action (StateM σ) α} {answer : Action Id α}

/-- The action keeps `inv` and comes to what the answer is, or it fails without saying that anything
is absent. -/
def Echoes (inv : σ → Prop) (act : Action (StateM σ) α) (answer : Action Id α) : Prop :=
  Ensures inv act.run (fun r s =>
    inv s ∧ (r = answer.run.run ∨ ∃ f, r = .error f ∧ saysAbsent f = false))

namespace Echoes

/-- Only what is answered is a success. -/
theorem eq_of_ok {a : α}
    (h : .ok a = answer.run.run ∨ ∃ f, Except.ok a = .error f ∧ saysAbsent f = false) :
    answer = ExceptT.mk (Pure.pure (.ok a)) := by
  rcases h with hr | ⟨f, hf, _⟩
  · exact hr.symm
  · cases hf

theorem pure (a : α) : Echoes inv (Pure.pure a) (Pure.pure a) := ⟨fun _ hs => ⟨hs, Or.inl rfl⟩⟩

theorem ofResult (r : Except Failure α) :
    Echoes inv (Action.ofResult r) (Action.ofResult r) := ⟨fun _ hs => ⟨hs, Or.inl rfl⟩⟩

theorem bind {next : α → Action (StateM σ) β} {next' : α → Action Id β}
    (h : Echoes inv act answer) (hnext : ∀ a, Echoes inv (next a) (next' a)) :
    Echoes inv (act >>= next) (answer >>= next') := by
  unfold Echoes
  rw [ExceptT.run_bind]
  refine Ensures.bind h (fun r => Ensures.given (fun hr => ?_))
  cases r with
  | ok a =>
      obtain rfl : answer = ExceptT.mk (Pure.pure (.ok a)) := eq_of_ok hr
      exact hnext a
  | error f =>
      refine Ensures.pure (fun _ hs => ⟨hs, ?_⟩)
      rcases hr with hr | ⟨_, hf, habsent⟩
      · obtain rfl : answer = ExceptT.mk (Pure.pure (.error f)) := hr.symm
        exact Or.inl rfl
      · obtain rfl := Except.error.inj hf
        exact Or.inr ⟨f, rfl, habsent⟩

theorem ite {c : Prop} [Decidable c] {act' : Action (StateM σ) α} {answer' : Action Id α}
    (h : Echoes inv act answer) (h' : Echoes inv act' answer') :
    Echoes inv (if c then act else act') (if c then answer else answer') := by
  split
  · exact h
  · exact h'

/-- Context does not say that anything is absent. -/
theorem within (h : Echoes inv act answer) (context : String) :
    Echoes inv (act.within context) (answer.within context) := by
  refine Ensures.bind h (fun r => Ensures.given (fun hr => ?_))
  cases r with
  | ok a =>
      obtain rfl : answer = ExceptT.mk (Pure.pure (.ok a)) := eq_of_ok hr
      exact Ensures.pure (fun _ hs => ⟨hs, Or.inl rfl⟩)
  | error f => exact Ensures.pure (fun _ hs => ⟨hs, Or.inr ⟨f.within context, rfl, rfl⟩⟩)

theorem throw {f : Failure} (hf : saysAbsent f = false) :
    Echoes inv (MonadExcept.throw f) answer := ⟨fun _ hs => ⟨hs, Or.inr ⟨f, rfl, hf⟩⟩⟩

/-- What is answered is the answer. -/
theorem answers {a : α} (h : Echoes inv act answer) (ha : Answers inv act a) :
    answer.run.run = .ok a := by
  obtain ⟨s', s, hs, hrun⟩ := ha
  have hresult := (h.run s hs).2
  rw [hrun] at hresult
  rw [eq_of_ok hresult]
  rfl

end Echoes

/-! ## Stores -/

/-- What an action without a state answers, or a stand-in. -/
def Action.getD (act : Action Id α) (other : α) : α := act.run.run.toOption.getD other

theorem Echoes.eq_getD {a other : α} (h : Echoes inv act answer) (ha : Answers inv act a) :
    a = answer.getD other := by
  unfold Action.getD
  rw [h.answers ha]
  rfl

namespace Store

/-- In states with `inv`, the store answers what the other one does, or fails in a way of its own. -/
structure Follows (inv : σ → Prop) (store : Store (StateM σ)) (answers : Store Id) : Prop where
  present : ∀ id, Echoes inv (store.present id) (answers.present id)
  isContainer : ∀ id, Echoes inv (store.isContainer id) (answers.isContainer id)
  modified : ∀ id, Echoes inv (store.modified id) (answers.modified id)
  length : ∀ id, Echoes inv (store.length id) (answers.length id)
  children : ∀ id, Echoes inv (store.children id) (answers.children id)
  access : ∀ id, Echoes inv (store.access id) (answers.access id)
  containerAccess : ∀ id, Echoes inv (store.containerAccess id) (answers.containerAccess id)

/-- What a store without a state holds. -/
def held (store : Store Id) : Snapshot where
  present := fun id => (store.present id).getD false
  isContainer := fun id => (store.isContainer id).getD false
  modified := fun id => (store.modified id).getD 0
  length := fun id => (store.length id).getD 0
  children := fun id => ((store.children id).getD ⟨[], none⟩).children
  content := fun id => ((store.content id).getD ⟨[], none⟩).bytes
  access := fun id => (store.access id).getD none
  containerAccess := fun id => (store.containerAccess id).getD none

/-- **A store stands still while it follows the same answers**, fingerprints apart. -/
theorem Follows.still {p : Processor (StateM σ)} {answers : Store Id}
    (h : p.store.Follows inv answers) (hkeeps : Conduct p (Keeping inv) (fun _ => True))
    (verdict : String → Bool) : Still p.blind inv answers.held verdict where
  keeps := hkeeps.blind
  present := fun id _ ha => (h.present id).eq_getD ha
  isContainer := fun id _ ha => (h.isContainer id).eq_getD ha
  modified := fun id _ ha => (h.modified id).eq_getD ha
  length := fun id _ ha => (h.length id).eq_getD ha
  access := fun id _ ha => (h.access id).eq_getD ha
  containerAccess := fun id _ ha => (h.containerAccess id).eq_getD ha
  children := fun id _ ha _ => congrArg Listing.children ((h.children id).eq_getD ha)
  fingerprint := fun _ _ hf => absurd hf not_fingerprinted_blind

end Store

/-! ## Services -/

/-- In states with `inv`, which its calls keep, the service answers what the other one does, or fails
in a way of its own. -/
structure ObjectService.Follows (inv : σ → Prop) (service : ObjectService (StateM σ))
    (answers : ObjectService Id) : Prop where
  status : ∀ k, Echoes inv (service.status k) (answers.status k)
  list : ∀ start, Echoes inv (service.list start) (answers.list start)

namespace ObjectService.Follows

variable {service : ObjectService (StateM σ)} {answers : ObjectService Id}

/-- That there is no such key is an answer for both. -/
theorem status? (h : service.Follows inv answers) (purpose id k : String) :
    Echoes inv (service.status? purpose id k) (answers.status? purpose id k) := by
  refine Ensures.bind (h.status k) (fun r => Ensures.given (fun hr => ?_))
  unfold ObjectService.status?
  generalize answers.status k = answer at hr
  cases r with
  | ok status =>
      obtain rfl : answer = ExceptT.mk (Pure.pure (.ok status)) := Echoes.eq_of_ok hr
      exact Ensures.pure (fun _ hs => ⟨hs, Or.inl rfl⟩)
  | error f =>
      refine Ensures.pure (fun _ hs => ⟨hs, ?_⟩)
      rcases hr with hr | ⟨_, hf, habsent⟩
      · obtain rfl : answer = ExceptT.mk (Pure.pure (.error f)) := hr.symm
        exact Or.inl rfl
      · obtain rfl := Except.error.inj hf
        rw [habsent]
        exact Or.inr ⟨_, rfl, rfl⟩

theorem find? (h : service.Follows inv answers) (id : String) :
    Echoes inv (service.find? id) (answers.find? id) := by
  refine .ite (.pure none) (.bind (h.status? _ id _) (fun found => ?_))
  cases found with
  | none => exact h.status? _ id _
  | some status => exact .pure _

theorem find (h : service.Follows inv answers) (id : String) :
    Echoes inv (service.find id) (answers.find id) := by
  refine .bind (h.find? id) (fun found => ?_)
  cases found with
  | none => exact .ite (.pure _) (.throw rfl)
  | some status => exact .pure status

/-- **What is true of the calls of the service is true of those of the store.** -/
theorem store (h : service.Follows inv answers) : service.store.Follows inv answers.store where
  present := by
    intro id
    dsimp only [ObjectService.store]
    exact .ite (.pure true) (.bind (h.find? id) (fun found => .pure found.isSome))
  isContainer := fun id => .bind (h.find id) (fun _ => .pure _)
  modified := fun id => .bind (h.find id) (fun _ => .pure _)
  length := fun id => .bind (h.find id) (fun _ => .pure _)
  children := fun id => .bind ((h.list _).within _) (fun _ => .pure _)
  access := fun _ => .pure none
  containerAccess := fun _ => .pure none

end ObjectService.Follows

end Harvest
