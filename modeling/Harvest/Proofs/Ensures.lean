import Harvest.Failure.Action

/-!
# Actions on a state

Stores, receivers, scratch copies and the process around a crawl are whatever runs on some state;
whether they answer rightly, fail, or change their mind from call to call is a matter of the state.
Facts about programs over them are conditions before and after, put together along the program.
-/

namespace Harvest

variable {σ α β ε : Type} {pre pre' : σ → Prop} {post post' : α → σ → Prop}

/-- From every state with `pre`, the action comes to a result and a state with `post`. -/
structure Ensures (pre : σ → Prop) (act : StateM σ α) (post : α → σ → Prop) : Prop where
  run : ∀ s, pre s → post (act.run s).1 (act.run s).2

namespace Ensures

theorem pure {a : α} (h : ∀ s, pre s → post a s) : Ensures pre (Pure.pure a) post := ⟨h⟩

theorem bind {act : StateM σ α} {next : α → StateM σ β} {final : β → σ → Prop}
    (hact : Ensures pre act post) (hnext : ∀ a, Ensures (post a) (next a) final) :
    Ensures pre (act >>= next) final :=
  ⟨fun s hs => (hnext _).run _ (hact.run s hs)⟩

theorem imp {act : StateM σ α} (h : Ensures pre act post) (hpre : ∀ s, pre' s → pre s)
    (hpost : ∀ a s, post a s → post' a s) : Ensures pre' act post' :=
  ⟨fun s hs => hpost _ _ (h.run s (hpre s hs))⟩

theorem ite {c : Prop} [Decidable c] {yes no : StateM σ α}
    (hyes : c → Ensures pre yes post) (hno : ¬c → Ensures pre no post) :
    Ensures pre (if c then yes else no) post := by
  split
  · exact hyes ‹c›
  · exact hno ‹¬c›

theorem and {act : StateM σ α} (h : Ensures pre act post) (h' : Ensures pre' act post') :
    Ensures (fun s => pre s ∧ pre' s) act (fun a s => post a s ∧ post' a s) :=
  ⟨fun s hs => ⟨h.run s hs.1, h'.run s hs.2⟩⟩

/-- A condition after may speak of the state before. -/
theorem from_each {act : StateM σ α} (h : ∀ s, pre s → Ensures (fun t => t = s) act post) :
    Ensures pre act post := ⟨fun s hs => (h s hs).run s rfl⟩

/-- What does not depend on the state is known before the action. -/
theorem given {fact : Prop} {act : StateM σ α} (h : fact → Ensures pre act post) :
    Ensures (fun s => pre s ∧ fact) act post := ⟨fun s hs => (h hs.2).run s hs.1⟩

end Ensures

/-- What holds of a result and the state it comes with, by whether it is a success. -/
def Upshot (good : α → σ → Prop) (bad : ε → σ → Prop) : Except ε α → σ → Prop
  | .ok a => good a
  | .error e => bad e

/-- From every state with `pre`, the action succeeds with `good` or fails with `bad`. -/
def Attempts (pre : σ → Prop) (act : ExceptT ε (StateM σ) α) (good : α → σ → Prop)
    (bad : ε → σ → Prop) : Prop := Ensures pre act.run (Upshot good bad)

namespace Attempts

variable {act : ExceptT ε (StateM σ) α} {good good' : α → σ → Prop} {bad bad' : ε → σ → Prop}

theorem pure {a : α} (h : ∀ s, pre s → good a s) : Attempts pre (Pure.pure a) good bad := ⟨h⟩

theorem throw {e : ε} (h : ∀ s, pre s → bad e s) :
    Attempts pre (MonadExcept.throw e : ExceptT ε (StateM σ) α) good bad := ⟨h⟩

theorem bind {next : α → ExceptT ε (StateM σ) β} {final : β → σ → Prop}
    (hact : Attempts pre act good bad) (hnext : ∀ a, Attempts (good a) (next a) final bad) :
    Attempts pre (act >>= next) final bad := by
  unfold Attempts
  rw [ExceptT.run_bind]
  refine Ensures.bind hact (fun r => ?_)
  cases r with
  | ok a => exact hnext a
  | error e => exact Ensures.pure (fun s hs => hs)

theorem imp (h : Attempts pre act good bad) (hpre : ∀ s, pre' s → pre s)
    (hgood : ∀ a s, good a s → good' a s) (hbad : ∀ e s, bad e s → bad' e s) :
    Attempts pre' act good' bad' := by
  refine Ensures.imp h hpre (fun r => ?_)
  cases r with
  | ok a => exact hgood a
  | error e => exact hbad e

theorem ite {c : Prop} [Decidable c] {yes no : ExceptT ε (StateM σ) α}
    (hyes : c → Attempts pre yes good bad) (hno : ¬c → Attempts pre no good bad) :
    Attempts pre (if c then yes else no) good bad := by
  split
  · exact hyes ‹c›
  · exact hno ‹¬c›

/-- Two ways into the same continuation. -/
theorem iteBind {c : Prop} [Decidable c] {yes no : ExceptT ε (StateM σ) α}
    {next : α → ExceptT ε (StateM σ) β} {final : β → σ → Prop}
    (hyes : c → Attempts pre yes good bad) (hno : ¬c → Attempts pre no good bad)
    (hnext : ∀ a, Attempts (good a) (next a) final bad) :
    Attempts pre (if c then yes >>= next else no >>= next) final bad :=
  ite (fun hc => (hyes hc).bind hnext) (fun hc => (hno hc).bind hnext)

/-- What does not depend on the state is known before the action. -/
theorem given {fact : Prop} (h : fact → Attempts pre act good bad) :
    Attempts (fun s => pre s ∧ fact) act good bad := Ensures.given h

end Attempts

end Harvest
