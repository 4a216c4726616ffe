import Harvest.Proofs.Leaf
import Harvest.Proofs.Pieces
import Harvest.Proofs.Tries

/-!
# What failed tries leave behind

A try that fails may have gone far: a listing breaks off after some children, and a scratch copy has
been filled with more bytes than the entry has now. The next try meets what the last one left.
`retries_unmixed` says that none of it comes through. What a listing answers is the list of the try
that succeeded, and a copy holds the bytes of the try that succeeded, so these are fingerprinted,
judged and handed over.

How the tries of a call turn out is described by a count. `At k` holds of the state when `k` tries
have been made, and a try that fails leads from one count to the next wherever it fails. With the
failures in a list that the budgets allow, the loop gets to the try behind them
(`tryFrom_succeeds`); what happened to the state on the way is up to the tries alone.
-/

namespace Harvest

variable {σ α β : Type} {At : Nat → σ → Prop} {failures : List Failure} {inv : σ → Prop}
  {act : Action (StateM σ) α} {post : α → σ → Prop}

/-! ## Failures within the budgets -/

/-- Tries that fail with these failures, and then one that succeeds. -/
def Retrying.Script.failing (failures : List Failure) : Retrying.Script Unit where
  result i := match failures[i - 1]? with
    | some f => .error f
    | none => .ok ()
  duration _ := 0

theorem Retrying.Script.result_failing {k : Nat} {f : Failure} (h : failures[k]? = some f) :
    (failing failures).result (k + 1) = .error f := by
  show (match failures[k + 1 - 1]? with
    | some f => Except.error f
    | none => .ok ()) = _
  rw [Nat.add_sub_cancel, h]

/-- The failures pass, and spend no budget: each of them is followed by another try. -/
def RetryPolicy.Allows (p : RetryPolicy) (failures : List Failure) : Prop :=
  ∀ i, 1 ≤ i → i ≤ failures.length → ¬(Retrying.Script.failing failures).Final p i

/-- Nobody cancels the crawl, and what is around it makes no tries. -/
structure Calm (monitor : Monitor (StateM σ)) (At : Nat → σ → Prop) : Prop where
  isCancelled : ∀ k, Ensures (At k) monitor.isCancelled
    (fun cancelled s => At k s ∧ cancelled = false)
  pause : ∀ k delay, Ensures (At k) (monitor.pause delay)
    (fun cancelled s => At k s ∧ cancelled = false)
  warn : ∀ k w, Ensures (At k) (monitor.warn w) (fun _ => At k)

/-- The tries of an action fail with these failures, one after the other. -/
def Stumbles (At : Nat → σ → Prop) (failures : List Failure) (act : Action (StateM σ) α) : Prop :=
  ∀ k f, failures[k]? = some f →
    Attempts (At k) act (fun _ _ => False) (fun g s => At (k + 1) s ∧ g = f)

/-! ## The loop -/

namespace Retrying

variable {r : Retrying (StateM σ)} {operation : String}

theorem wait_calm (h : Calm r.monitor At) (k delay : Nat) :
    Ensures (At k) (r.wait delay) (fun cancelled s => At k s ∧ cancelled = false) :=
  .ite (fun _ => .pure (fun _ hs => ⟨hs, rfl⟩)) (fun _ => h.pause k delay)

/-- What goes on only if the crawl is not cancelled, goes on. -/
theorem goes_on {ε : Type} {k : Nat} {check : StateM σ Bool} {stop rest : StateM σ (Except ε α)}
    {good : α → σ → Prop} {bad : ε → σ → Prop}
    (hcheck : Ensures (At k) check (fun cancelled s => At k s ∧ cancelled = false))
    (hrest : Ensures (At k) rest (Upshot good bad)) :
    Ensures (At k) (do if ← check then stop else rest) (Upshot good bad) := by
  refine hcheck.bind (fun cancelled => ?_)
  refine .given (fun hgoes => ?_)
  subst hgoes
  exact hrest

/-- **The loop gets to the try behind the failures**, however many of them have been made. -/
theorem tryFrom_succeeds (hcalm : Calm r.monitor At) (hallows : r.policy.Allows failures)
    (hfails : Stumbles At failures act) (hlast : Succeeds (At failures.length) act post) :
    ∀ left k, k + left = failures.length →
      Succeeds (At k) (r.tryFrom operation act (r.policy.extraTries - k) (k + 1)
        ((Script.failing failures).streak? k)) post
  | 0, k, hk => by
      obtain rfl : k = failures.length := hk
      rw [tryFrom]
      refine goes_on (hcalm.isCancelled _) (Ensures.bind hlast (fun result => ?_))
      cases result with
      | ok a => exact Ensures.pure (fun _ hs => hs)
      | error f => exact ⟨fun _ hs => hs.elim⟩
  | left + 1, k, hk => by
      have hlt : k < failures.length := by omega
      have hf : failures[k]? = some failures[k] := List.getElem?_eq_getElem hlt
      have hresult := Script.result_failing hf
      obtain ⟨f, hf', hclass, hattempts, hconsecutive⟩ :=
        Script.error_of_not_final (hallows (k + 1) (Nat.le_add_left 1 k) hlt)
      obtain rfl : failures[k] = f := Except.error.inj (hresult.symm.trans hf')
      have hextra : r.policy.extraTries - k = r.policy.extraTries - (k + 1) + 1 := by
        unfold RetryPolicy.extraTries
        omega
      rw [tryFrom]
      refine goes_on (hcalm.isCancelled k) (Ensures.bind (hfails k _ hf) (fun result => ?_))
      cases result with
      | ok a => exact ⟨fun _ hs => hs.elim⟩
      | error g =>
          -- the failure is the one of the list, so its class and its streak are known
          refine Ensures.given (fun hg => ?_)
          subst hg
          dsimp only [FailedTry.new]
          rw [if_neg (not_not.mpr hclass), Script.extend_streak? (Script.key?_of_error hresult),
            hextra]
          dsimp only
          rw [if_neg (not_le.mpr hconsecutive)]
          have hnext := tryFrom_succeeds hcalm hallows hfails hlast left (k + 1) (by omega)
          rw [Script.streak?, Script.key?_of_error hresult] at hnext
          exact (hcalm.warn (k + 1) _).bind (fun _ => goes_on (wait_calm hcalm (k + 1) _) hnext)

/-- **A call comes to what the try behind the failures comes to.** -/
theorem run_succeeds (hcalm : Calm r.monitor At) (hallows : r.policy.Allows failures)
    (hfails : Stumbles At failures act) (hlast : Succeeds (At failures.length) act post) :
    Succeeds (At 0) (r.run operation act) post :=
  tryFrom_succeeds hcalm hallows hfails hlast failures.length 0 (Nat.zero_add _)

end Retrying

/-! ## Calls in steps -/

variable {p : Processor (StateM σ)} {id : String} {held : σ → String → ByteArray} {f : Failure}

/-- The steps of listing a container. -/
def Processor.listing (p : Processor (StateM σ)) (id : String) : Action (StateM σ) (List String) := do
  let listing ← p.store.children id
  match listing.failure with
  | some f => throw f
  | none => pure listing.children

/-- The steps of copying the content of an entry. -/
def Processor.fetch (p : Processor (StateM σ)) (id path : String) : Action (StateM σ) Unit := do
  p.scratch.fill path (← p.store.content id)

theorem call_succeeds (hcalm : Calm p.monitor At) (hallows : p.policy.Allows failures)
    (hfails : Stumbles At failures act) (hlast : Succeeds (At failures.length) act post)
    (c : StoreCall) : Succeeds (At 0) (p.call c id act) post :=
  judged_succeeds (Retrying.run_succeeds hcalm hallows hfails hlast)

/-- What succeeds does not fail in any way. -/
theorem unfailing {pre : σ → Prop} {bad : Failure → σ → Prop} (h : Succeeds pre act post) :
    Attempts pre act post bad :=
  h.imp (fun _ hs => hs) (fun _ _ hs => hs) (fun _ _ hs => hs.elim)

/-- A listing fails whether it is not begun or breaks off, after any children. -/
theorem listing_breaks {before after : σ → Prop}
    (h : Attempts before (p.store.children id)
      (fun listing s => after s ∧ listing.failure = some f) (fun g s => after s ∧ g = f)) :
    Attempts before (p.listing id) (fun _ _ => False) (fun g s => after s ∧ g = f) := by
  refine h.bind (fun listing => .given (fun hf => ?_))
  rw [hf]
  exact .throw (fun _ hs => ⟨hs, rfl⟩)

/-- A copy fails whether the content is not opened or breaks off, after any pieces. -/
theorem fetch_breaks {before after : σ → Prop} {path : String}
    (hclear : Succeeds after (p.scratch.clear path) (fun _ => after))
    (happend : ∀ piece, Succeeds after (p.scratch.append path piece) (fun _ => after))
    (h : Attempts before (p.store.content id)
      (fun content s => after s ∧ content.failure = some f) (fun g s => after s ∧ g = f)) :
    Attempts before (p.fetch id path) (fun _ _ => False) (fun g s => after s ∧ g = f) := by
  have happendAll : ∀ pieces : List ByteArray,
      Succeeds after (p.scratch.appendAll path pieces) (fun _ => after) := by
    intro pieces
    induction pieces with
    | nil => exact .pure (fun _ hs => hs)
    | cons piece pieces ih => exact (happend piece).bind (fun _ => ih)
  refine h.bind (fun content => .given (fun hf => ?_))
  unfold Scratch.fill
  rw [hf]
  exact (unfailing hclear).bind (fun _ => (unfailing (happendAll content.pieces)).bind
    (fun _ => .throw (fun _ hs => ⟨hs, rfl⟩)))

/-! ## Copies -/

/-- A copy holds what has been written to it, and is read as what it holds. -/
structure Scratch.Holds (place : Scratch (StateM σ)) (inv : σ → Prop) (held : σ → String → ByteArray) :
    Prop where
  clear : ∀ path, Succeeds inv (place.clear path) (fun _ s => inv s ∧ held s path = .empty)
  append : ∀ path bytes piece, Succeeds (fun s => inv s ∧ held s path = bytes)
    (place.append path piece) (fun _ s => inv s ∧ held s path = bytes ++ piece)
  read : ∀ path bytes, Succeeds (fun s => inv s ∧ held s path = bytes) (place.read path)
    (fun content s => (inv s ∧ held s path = bytes) ∧ content.toResult = .ok bytes)

/-- What is answered as a whole did not break off. -/
theorem toResult_eq_ok {content : Content} {bytes : ByteArray} :
    content.toResult = .ok bytes ↔ content.failure = none ∧ content.bytes = bytes := by
  unfold Content.toResult
  cases content.failure with
  | some f => exact iff_of_false nofun (fun h => nomatch h.1)
  | none => exact ⟨fun h => ⟨rfl, Except.ok.inj h⟩, fun h => congrArg Except.ok h.2⟩

namespace Scratch.Holds

variable {place : Scratch (StateM σ)} {path : String} {bytes : ByteArray}

theorem appendAll (h : place.Holds inv held) (path : String) :
    ∀ (pieces : List ByteArray) (bytes : ByteArray),
      Succeeds (fun s => inv s ∧ held s path = bytes) (place.appendAll path pieces)
        (fun _ s => inv s ∧ held s path = pieces.foldl (· ++ ·) bytes)
  | [], _ => .pure (fun _ hs => hs)
  | piece :: pieces, bytes =>
      (h.append path bytes piece).bind (fun _ => appendAll h path pieces (bytes ++ piece))

/-- **A copy that is filled holds the content**, whatever it held before. -/
theorem fill (h : place.Holds inv held) {content : Content}
    (hwhole : content.toResult = .ok bytes) :
    Succeeds inv (place.fill path content) (fun _ s => inv s ∧ held s path = bytes) := by
  obtain ⟨hf, hbytes⟩ := toResult_eq_ok.mp hwhole
  unfold Scratch.fill
  rw [hf]
  refine (h.clear path).bind (fun _ => (h.appendAll path content.pieces .empty).bind (fun _ => ?_))
  exact .pure (fun s hs => ⟨hs.1, hs.2.trans hbytes⟩)

/-- The fingerprint of a copy is that of the bytes it holds. -/
theorem fingerprinter (h : place.Holds inv held) :
    Succeeds (fun s => inv s ∧ held s path = bytes) (place.fingerprinter path)
      (fun f s => (inv s ∧ held s path = bytes) ∧ f = .ofBytes bytes) := by
  refine (h.read path bytes).bind (fun content => .given (fun hwhole => ?_))
  obtain ⟨hf, hbytes⟩ := toResult_eq_ok.mp hwhole
  rw [hf]
  refine .pure (fun s hs => ⟨hs, ?_⟩)
  rw [Fingerprint.ofPieces_eq, ← hbytes]
  rfl

end Scratch.Holds

/-- What is known of the tries of copying an entry: they fail with these failures, wherever they
fail, and the try behind them opens content with these bytes. -/
structure Fetches (p : Processor (StateM σ)) (At : Nat → σ → Prop)
    (held : σ → String → ByteArray) (failures : List Failure) (id : String) (bytes : ByteArray) :
    Prop where
  fails : ∀ path, Stumbles At failures (p.fetch id path)
  content : Succeeds (At failures.length) (p.store.content id)
    (fun content s => At (failures.length + 1) s ∧ content.toResult = .ok bytes)
  create : Succeeds (At 0) p.scratch.create (fun _ => At 0)
  holds : p.scratch.Holds (At (failures.length + 1)) held

variable {bytes : ByteArray}

/-- The last try fills the copy anew. -/
theorem Fetches.fetched (h : Fetches p At held failures id bytes) (path : String) :
    Succeeds (At failures.length) (p.fetch id path)
      (fun _ s => At (failures.length + 1) s ∧ held s path = bytes) :=
  h.content.bind (fun _ => .given (fun hwhole => h.holds.fill hwhole))

theorem Fetches.copied (h : Fetches p At held failures id bytes) (hcalm : Calm p.monitor At)
    (hallows : p.policy.Allows failures) (path : String) :
    Succeeds (At 0) (p.call .content id (p.fetch id path))
      (fun _ s => At (failures.length + 1) s ∧ held s path = bytes) :=
  call_succeeds hcalm hallows (h.fails path) (h.fetched path) .content

/-! ## Copies that are watched -/

theorem unnoted_bind (act : Action (StateM σ) α) (next : α → Action (StateM σ) β) :
    (unnoted act >>= fun a => unnoted (next a)) = unnoted (act >>= next) := by
  refine ExceptT.ext (StateT.ext (fun s => ?_))
  have hrun : (unnoted (act >>= next)).run.run s =
      (((act >>= next).run.run s.1).1, ((act >>= next).run.run s.1).2, s.2) := rfl
  have hfirst : (unnoted act).run.run s = ((act.run.run s.1).1, (act.run.run s.1).2, s.2) := rfl
  rw [hrun, ExceptT.run_bind, StateT.run_bind, hfirst, ExceptT.run_bind, StateT.run_bind]
  generalize act.run.run s.1 = r
  obtain ⟨r, t⟩ := r
  cases r with
  | ok a => rfl
  | error f => rfl

/-- The note is made of the first step, and goes for all of them. -/
theorem probe_bind (act : Action (StateM σ) α) (next : α → Action (StateM σ) β) (note : Probe) :
    (probe act note >>= fun a => unnoted (next a)) = probe (act >>= next) note := by
  refine ExceptT.ext (StateT.ext (fun s => ?_))
  have hrun : (probe (act >>= next) note).run.run s =
      (((act >>= next).run.run s.1).1, ((act >>= next).run.run s.1).2, s.2 ++ [note]) := rfl
  have hfirst : (probe act note).run.run s =
      ((act.run.run s.1).1, (act.run.run s.1).2, s.2 ++ [note]) := rfl
  rw [hrun, ExceptT.run_bind, StateT.run_bind, hfirst, ExceptT.run_bind, StateT.run_bind]
  generalize act.run.run s.1 = r
  obtain ⟨r, t⟩ := r
  cases r with
  | ok a => rfl
  | error f => rfl

theorem appendAll_probed (p : Processor (StateM σ)) (path : String) :
    ∀ pieces : List ByteArray,
      p.probed.scratch.appendAll path pieces = unnoted (p.scratch.appendAll path pieces)
  | [] => rfl
  | piece :: pieces => by
      rw [Scratch.appendAll, Scratch.appendAll, appendAll_probed p path pieces, ← unnoted_bind]
      rfl

theorem fill_probed (p : Processor (StateM σ)) (path : String) (content : Content) :
    p.probed.scratch.fill path content = unnoted (p.scratch.fill path content) := by
  rw [Scratch.fill, Scratch.fill, appendAll_probed]
  cases content.failure with
  | some f =>
      exact (bind_congr (fun _ => unnoted_bind _ (fun _ => throw f))).trans (unnoted_bind _ _)
  | none =>
      exact (bind_congr (fun _ => unnoted_bind _ (fun _ => pure ()))).trans (unnoted_bind _ _)

/-- A copy that is watched opens the content, and does nothing else that is noted. -/
theorem fetch_probed (p : Processor (StateM σ)) (id path : String) :
    p.probed.fetch id path = probe (p.fetch id path) (.opened id) := by
  rw [Processor.fetch, Processor.fetch, ← probe_bind]
  exact bind_congr (fun content => fill_probed p path content)

/-! ## What the receiver is handed -/

/-- The receiver has been handed these contents, in this order. -/
def Delivered (handed : List (Delivery × Except Failure ByteArray)) (s : σ × List Probe) : Prop :=
  s.2.filterMap Probe.delivery? = handed

/-- A condition on the state while the receiver has been handed nothing. -/
def Withheld (pre : σ → Prop) (s : σ × List Probe) : Prop := pre s.1 ∧ Delivered [] s

section Watched

variable {ε : Type} {pre : σ → Prop} {good : α → σ → Prop} {bad : Failure → σ → Prop} {note : Probe}
  {handed : List (Delivery × Except Failure ByteArray)} {operation token path : String} {e : Entry}

/-- What does not depend on the state does not depend on notes either. -/
theorem Withheld.known {fact : Prop} {s : σ × List Probe}
    (h : Withheld (fun s => pre s ∧ fact) s) : Withheld pre s ∧ fact := ⟨⟨h.1.1, h.2⟩, h.1.2⟩

theorem beside_withheld {act : StateM σ α} (h : Ensures pre act good) :
    Ensures (Withheld pre) (beside act) (fun a => Withheld (good a)) :=
  ⟨fun s hs => ⟨h.run s.1 hs.1, hs.2⟩⟩

theorem unnoted_withheld (h : Attempts pre act good bad) :
    Attempts (Withheld pre) (unnoted act) (fun a => Withheld (good a))
      (fun f => Withheld (bad f)) := by
  refine (beside_withheld h).imp (fun _ hs => hs) (fun r s hs => ?_)
  cases r with
  | ok a => exact hs
  | error f => exact hs

theorem probe_withheld (hnote : note.delivery? = none) (h : Attempts pre act good bad) :
    Attempts (Withheld pre) (probe act note) (fun a => Withheld (good a))
      (fun f => Withheld (bad f)) := by
  refine ⟨fun s hs => ?_⟩
  have hrun := h.run s.1 hs.1
  have hquiet : (s.2 ++ [note]).filterMap Probe.delivery? = [] := by
    rw [List.filterMap_append, hs.2, List.filterMap_cons_none hnote]
    rfl
  change Upshot _ _ (act.run.run s.1).1 ((act.run.run s.1).2, s.2 ++ [note])
  generalize act.run.run s.1 = r at hrun
  obtain ⟨r, t⟩ := r
  cases r with
  | ok a => exact ⟨hrun, hquiet⟩
  | error f => exact ⟨hrun, hquiet⟩

/-- However the action ends, the receiver has then been handed these contents. -/
abbrev Hands (pre : σ × List Probe → Prop) (act : ExceptT ε (StateM (σ × List Probe)) α)
    (handed : List (Delivery × Except Failure ByteArray)) : Prop :=
  Ensures pre act.run (fun _ => Delivered handed)

theorem Hands.after {pre : σ × List Probe → Prop} {act : ExceptT ε (StateM (σ × List Probe)) α}
    {next : α → ExceptT ε (StateM (σ × List Probe)) β} {good : α → σ × List Probe → Prop}
    (h : Succeeds pre act good) (hnext : ∀ a, Hands (good a) (next a) handed) :
    Hands pre (act >>= next) handed := by
  unfold Hands
  rw [ExceptT.run_bind]
  refine Ensures.bind h (fun r => ?_)
  cases r with
  | ok a => exact hnext a
  | error f => exact ⟨fun _ hs => hs.elim⟩

theorem Hands.then_pure {pre : σ × List Probe → Prop}
    {act : ExceptT ε (StateM (σ × List Probe)) α} (h : Hands pre act handed) (result : α → β) :
    Hands pre (act >>= fun a => pure (result a)) handed := by
  unfold Hands
  rw [ExceptT.run_bind]
  refine Ensures.bind h (fun r => ?_)
  cases r with
  | ok a => exact Ensures.pure (fun _ hs => hs)
  | error f => exact Ensures.pure (fun _ hs => hs)

theorem judged_hands {pre : σ × List Probe → Prop} {act : Action (StateM (σ × List Probe)) α}
    (h : Hands pre act handed) : Hands pre (p.probed.judged operation id act) handed := by
  refine Ensures.bind h (fun r => ?_)
  cases r with
  | ok a => exact Ensures.pure (fun _ hs => hs)
  | error f => exact Ensures.bind ⟨fun _ hs => hs⟩ (fun _ => Ensures.pure (fun _ hs => hs))

theorem deletion_hands (p : Processor (StateM σ)) (id reason : String) (pre : σ → Prop) :
    Hands (Withheld pre) (p.probed.delete id reason) [] :=
  (judged_hands ⟨fun _ hs => hs.2⟩).then_pure _

theorem handOver_hands (p : Processor (StateM σ)) (request : Delivery) {content : Content}
    (hwhole : content.toResult = .ok bytes) (pre : σ → Prop) :
    Hands (Withheld pre) (p.probed.handOver request content) [(request, .ok bytes)] := by
  refine (judged_hands ⟨fun s hs => ?_⟩).then_pure _
  show (s.2 ++ [Probe.delivered request content]).filterMap Probe.delivery? = _
  rw [List.filterMap_append, hs.2, ← hwhole]
  rfl

/-- What the receiver is handed for a copy of an entry with these bytes, if the rules let it. -/
def Processor.handedCopy (p : Processor (StateM σ)) (e : Entry) (token : String)
    (bytes : ByteArray) : List (Delivery × Except Failure ByteArray) :=
  if p.tree.wouldInclude e (Fingerprint.ofBytes bytes).indexable then
    [(⟨e.id, token, .ofToken token, some (.ofBytes bytes)⟩, .ok bytes)]
  else []

/-- The bytes of a copy are fingerprinted, judged and handed over. -/
theorem ingestCopy_hands (hholds : p.scratch.Holds inv held)
    (hprint : p.fingerprinter = p.scratch.fingerprinter) (e : Entry) (token path : String) :
    Hands (Withheld (fun s => inv s ∧ held s path = bytes)) (p.probed.ingestCopy e token path)
      (p.handedCopy e token bytes) := by
  have hfound : Succeeds (fun s => inv s ∧ held s path = bytes) (p.fingerprinter path)
      (fun f s => (inv s ∧ held s path = bytes) ∧ f = .ofBytes bytes) :=
    hprint ▸ hholds.fingerprinter
  have hread := hholds.read path bytes
  unfold Processor.ingestCopy
  refine Hands.after (judged_succeeds ((probe_withheld rfl hfound).imp (fun _ hs => hs)
    (fun _ _ hs => hs.known) (fun _ _ hs => hs.1))) (fun f => Ensures.given (fun hf => ?_))
  subst hf
  refine Ensures.ite (fun haccept => ?_) (fun hreject => ?_)
  · have hhanded : p.handedCopy e token bytes =
        [(⟨e.id, token, .ofToken token, some (.ofBytes bytes)⟩, .ok bytes)] := if_pos haccept
    rw [hhanded]
    refine Hands.after (judged_succeeds (within_succeeds ((unnoted_withheld hread).imp
      (fun _ hs => hs) (fun _ _ hs => hs.known) (fun _ _ hs => hs.1)))) ?_
    exact fun content => Ensures.given (fun hwhole => handOver_hands p _ hwhole _)
  · have hhanded : p.handedCopy e token bytes = [] := if_neg hreject
    rw [hhanded]
    exact deletion_hands p e.id _ _

/-! ## The notes do not get in the way -/

theorem Calm.probed (h : Calm p.monitor At) :
    Calm p.probed.monitor (fun k => Withheld (At k)) where
  isCancelled := fun k =>
    (beside_withheld (h.isCancelled k)).imp (fun _ hs => hs) (fun _ _ hs => hs.known)
  pause := fun k delay =>
    (beside_withheld (h.pause k delay)).imp (fun _ hs => hs) (fun _ _ hs => hs.known)
  warn := fun k w => beside_withheld (h.warn k w)

theorem Fetches.probed (h : Fetches p At held failures id bytes) (path : String)
    (hcalm : Calm p.monitor At) (hallows : p.policy.Allows failures) :
    Succeeds (Withheld (At 0)) (p.probed.call .content id (p.probed.fetch id path))
      (fun _ => Withheld (fun s => At (failures.length + 1) s ∧ held s path = bytes)) := by
  rw [fetch_probed]
  refine call_succeeds hcalm.probed hallows ?_ ?_ .content
  · intro k f hf
    exact (probe_withheld rfl (h.fails path k f hf)).imp (fun _ hs => hs)
      (fun _ _ hs => hs.1) (fun _ _ hs => hs.known)
  · exact (probe_withheld rfl (h.fetched path)).imp (fun _ hs => hs) (fun _ _ hs => hs)
      (fun _ _ hs => hs.1)

/-- The receiver is handed the copy of the try that succeeded. -/
theorem Fetches.handsOver (h : Fetches p At held failures e.id bytes) (hcalm : Calm p.monitor At)
    (hallows : p.policy.Allows failures) (hprint : p.fingerprinter = p.scratch.fingerprinter)
    (token : String) :
    Hands (Withheld (At 0)) (p.probed.withCopy e.id (p.probed.ingestCopy e token))
      (p.handedCopy e token bytes) := by
  refine Ensures.bind (unnoted_withheld h.create) (fun r => ?_)
  cases r with
  | error f => exact ⟨fun _ hs => hs.1.elim⟩
  | ok path =>
      have hwork : Hands (Withheld (At 0))
          (do p.probed.call .content e.id (p.probed.fetch e.id path)
              p.probed.ingestCopy e token path) (p.handedCopy e token bytes) :=
        .after (h.probed path hcalm hallows) (fun _ => ingestCopy_hands h.holds hprint e token path)
      -- discarding the copy takes nothing back
      exact Ensures.bind hwork (fun result => Ensures.bind ⟨fun _ hs => hs⟩
        (fun _ => Ensures.pure (fun _ hs => hs)))

end Watched

/-! ## All of it -/

theorem run_of_succeeds {ε : Type} {act : ExceptT ε (StateM σ) α} {pre : σ → Prop}
    (h : Succeeds pre act post) {s : σ} (hs : pre s) :
    ∃ a s', act.run.run s = (.ok a, s') ∧ post a s' := by
  have hrun := h.run s hs
  cases hr : act.run.run s with
  | mk r s' =>
      rw [hr] at hrun
      cases r with
      | ok a => exact ⟨a, s', rfl, hrun⟩
      | error f => exact hrun.elim

/-- **No try comes through but the one that succeeds.** Let a call fail any number of times that the
budgets allow, each time wherever it likes, and then succeed. A listing answers the children of the
last try. A copy holds the bytes of the last try. What is handed over of an entry that hinges on its
content are these bytes with their own fingerprint, if the rules accept the entry with it, and
nothing otherwise. -/
theorem retries_unmixed (p : Processor (StateM σ)) (At : Nat → σ → Prop)
    (held : σ → String → ByteArray) (failures : List Failure) (hcalm : Calm p.monitor At)
    (hallows : p.policy.Allows failures) :
    (∀ (id : String) (children : List String),
      Stumbles At failures (p.listing id) →
      Succeeds (At failures.length) (p.store.children id)
        (fun listing s => At (failures.length + 1) s ∧ listing = .ofList children) →
      ∀ s, At 0 s → ((p.children id).run.run s).1 = .ok children) ∧
    ∀ (e : Entry) (token : String) (bytes : ByteArray),
      (Version.ofToken token).ambiguity = .dependsOnContent →
      p.fingerprinter = p.scratch.fingerprinter →
      Fetches p At held failures e.id bytes →
      ∀ s, At 0 s →
        (∀ path, ∃ s', (p.call .content e.id (p.fetch e.id path)).run.run s = (.ok (), s') ∧
          held s' path = bytes) ∧
        (let r := (p.probed.ingest e token).run.run (s, [])
        (p.ingest e token).run.run s = (r.1, r.2.1) ∧
          r.2.2.filterMap Probe.delivery? =
            if p.tree.wouldInclude e (Fingerprint.ofBytes bytes).indexable then
              [(⟨e.id, token, .ofToken token, some (.ofBytes bytes)⟩, .ok bytes)]
            else []) := by
  refine ⟨?_, ?_⟩
  · intro id children hfails hlast s hs
    have hlisted : Succeeds (At failures.length) (p.listing id) (fun found _ => found = children) :=
      hlast.bind (fun listing => .given (fun hlisting => hlisting ▸ .pure (fun _ _ => rfl)))
    have hcall : Succeeds (At 0) (p.call .children id (p.listing id))
        (fun found _ => found = children) := call_succeeds hcalm hallows hfails hlisted .children
    obtain ⟨found, s', hrun, hfound⟩ := run_of_succeeds hcall hs
    rw [← hfound]
    exact congrArg Prod.fst hrun
  · intro e token bytes hflag hprint hfetches s hs
    refine ⟨fun path => ?_, ?_⟩
    · obtain ⟨_, s', hrun, _, hheld⟩ := run_of_succeeds (hfetches.copied hcalm hallows path) hs
      exact ⟨s', hrun, hheld⟩
    · have hcopy : p.probed.ingest e token =
          p.probed.withCopy e.id (p.probed.ingestCopy e token) := by
        rw [Processor.ingest, hflag]
      obtain ⟨hresult, hstate⟩ :=
        shadows_of_alike (((probed_mimics p).attends e.id).ingestion rfl token) (s, [])
      refine ⟨Prod.ext hresult.symm hstate.symm, ?_⟩
      rw [hcopy]
      exact (hfetches.handsOver hcalm hallows hprint token).run (s, []) ⟨hs, rfl⟩

/-! ## A store that gets there at the third try -/

/-- How many tries have been made, and the copy. -/
structure Flaky where
  tries : Nat
  copy : ByteArray

/-- What the first two tries run into. -/
def flakyFailures : List Failure :=
  [.of (.system .timedOut "timed out"), .of (.system .connectionReset "connection reset")]

/-- What is answered by the try after so many: not at all, with something that breaks off, and then
as a whole. -/
def flakyTry (broken whole : Option Failure → α) : Nat → Except Failure α
  | 0 => .error (.of (.system .timedOut "timed out"))
  | 1 => .ok (broken (some (.of (.system .connectionReset "connection reset"))))
  | _ => .ok (whole none)

/-- The content when the last try is made, and what there was of it before. -/
def flakyText : ByteArray := ⟨#[104, 105]⟩
def flakyDraft : ByteArray := ⟨#[100, 114, 97, 102, 116, 0]⟩

def flakyScratch : Scratch (StateM Flaky) where
  location := ""
  create := pure ""
  clear := fun _ => modify (fun s => { s with copy := .empty })
  append := fun _ piece => modify (fun s => { s with copy := s.copy ++ piece })
  read := fun _ => do return .ofBytes (← get).copy
  discard := fun _ => pure ()

/-- A call that makes one more try. -/
def flakyCall (answer : Nat → Except Failure α) : Action (StateM Flaky) α := ExceptT.mk do
  let s ← get
  set { s with tries := s.tries + 1 }
  return answer s.tries

/-- A crawl with a store that fails twice, by rules that ask for the content. -/
def shakyCrawl : Processor (StateM Flaky) where
  store :=
    { idStart := ""
      present := fun _ => pure true
      isContainer := fun _ => pure false
      modified := fun _ => pure 0
      length := fun _ => pure 0
      children := fun _ => flakyCall (flakyTry (⟨["/d/a", "/d/b", "/d/c"], ·⟩) (⟨["/d/b"], ·⟩))
      content := fun _ => flakyCall (flakyTry (⟨[flakyDraft], ·⟩) (⟨[flakyText], ·⟩))
      access := fun _ => pure none
      containerAccess := fun _ => pure none }
  tree := pickyTree
  encoder := .standard
  sink :=
    { ingest := fun _ content => pure content.bytes.size
      delete := fun _ => pure ()
      skip := fun _ _ => pure ()
      record := fun _ => pure () }
  scratch := flakyScratch
  fingerprinter := flakyScratch.fingerprinter
  policy := .standard
  monitor := ⟨pure 0, pure false, fun _ => pure false, fun _ => pure ()⟩

def FlakyAt (k : Nat) (s : Flaky) : Prop := s.tries = k

theorem flaky_calm : Calm shakyCrawl.monitor FlakyAt where
  isCancelled := fun _ => .pure (fun _ hs => ⟨hs, rfl⟩)
  pause := fun _ _ => .pure (fun _ hs => ⟨hs, rfl⟩)
  warn := fun _ _ => .pure (fun _ hs => hs)

theorem flaky_allows : shakyCrawl.policy.Allows flakyFailures := by
  intro i hi hle hfinal
  have hcases : i = 1 ∨ i = 2 := by
    have hlength : flakyFailures.length = 2 := rfl
    omega
  obtain rfl | rfl := hcases
  all_goals
    obtain ⟨_, ha⟩ | ⟨_, hf, hclass⟩ | hspent | hspent := hfinal
    · cases ha
    · cases hf
      exact hclass (by decide +kernel)
    · exact absurd hspent (by decide)
    · exact absurd hspent (by decide +kernel)

/-- The first two tries fail with the failures of the list. -/
theorem flaky_fails {broken whole : Option Failure → α} {k : Nat} {f : Failure}
    (hf : flakyFailures[k]? = some f) :
    Attempts (FlakyAt k) (flakyCall (flakyTry broken whole))
      (fun a s => FlakyAt (k + 1) s ∧ a = broken (some f)) (fun g s => FlakyAt (k + 1) s ∧ g = f) := by
  refine ⟨fun s hs => ?_⟩
  obtain ⟨tries, copy⟩ := s
  obtain rfl : tries = k := hs
  match tries, hf with
  | 0, rfl => exact ⟨rfl, rfl⟩
  | 1, rfl => exact ⟨rfl, rfl⟩

/-- The third try gets through. -/
theorem flaky_succeeds {broken whole : Option Failure → α} :
    Succeeds (FlakyAt flakyFailures.length) (flakyCall (flakyTry broken whole))
      (fun a s => FlakyAt (flakyFailures.length + 1) s ∧ a = whole none) := by
  refine ⟨fun s hs => ?_⟩
  obtain ⟨tries, copy⟩ := s
  obtain rfl : tries = flakyFailures.length := hs
  exact ⟨rfl, rfl⟩

theorem flaky_fetches (id : String) :
    Fetches shakyCrawl FlakyAt (fun s _ => s.copy) flakyFailures id flakyText where
  fails := by
    intro path k f hf
    refine fetch_breaks ⟨fun _ hs => hs⟩ (fun _ => ⟨fun _ hs => hs⟩) ?_
    exact (flaky_fails hf).imp (fun _ hs => hs) (fun _ _ hs => ⟨hs.1, congrArg Content.failure hs.2⟩)
      (fun _ _ hs => hs)
  content := flaky_succeeds.imp (fun _ hs => hs)
    (fun _ _ hs => ⟨hs.1, hs.2 ▸ toResult_ofBytes flakyText⟩) (fun _ _ hs => hs)
  create := .pure (fun _ hs => hs)
  holds :=
    { clear := fun _ => ⟨fun _ hs => ⟨hs, rfl⟩⟩
      append := fun _ _ _ => ⟨fun _ hs => ⟨hs.1, congrArg (· ++ _) hs.2⟩⟩
      read := fun _ _ => ⟨fun _ hs => ⟨hs, by rw [← hs.2]; exact toResult_ofBytes _⟩⟩ }

/-- The draft was longer than the text, and would not have been handed over. -/
theorem retries_unmixed_flaky :
    ((shakyCrawl.children "/d").run.run ⟨0, .empty⟩).1 = .ok ["/d/b"] ∧
    ((shakyCrawl.probed.ingest (.leaf "/d/b" 2 0) (shakyCrawl.token (.leaf "/d/b" 2 0))).run.run
      (⟨0, .empty⟩, [])).2.2.filterMap Probe.delivery? =
        [(shakyCrawl.request (.leaf "/d/b" 2 0) (some (.ofBytes flakyText)), .ok flakyText)] ∧
    pickyTree.wouldInclude (.leaf "/d/b" 2 0) (Fingerprint.ofBytes flakyDraft).indexable = false := by
  obtain ⟨hchildren, hcopies⟩ := retries_unmixed shakyCrawl FlakyAt (fun s _ => s.copy)
    flakyFailures flaky_calm flaky_allows
  have hlisting : Stumbles FlakyAt flakyFailures (shakyCrawl.listing "/d") := by
    intro k f hf
    refine listing_breaks ?_
    exact (flaky_fails hf).imp (fun _ hs => hs) (fun _ _ hs => ⟨hs.1, congrArg Listing.failure hs.2⟩)
      (fun _ _ hs => hs)
  have hfits : (shakyCrawl.encoder.version shakyCrawl.tree shakyCrawl.store.idStart
      (.leaf "/d/b" 2 0)).Fits := ⟨fun _ h => (nomatch h), fun _ h => (nomatch h)⟩
  have hflag : shakyCrawl.flag (.leaf "/d/b" 2 0) = .dependsOnContent :=
    (flag_eq hfits).trans (by decide +kernel)
  obtain ⟨_, _, hhanded⟩ := hcopies (.leaf "/d/b" 2 0) (shakyCrawl.token (.leaf "/d/b" 2 0))
    flakyText hflag rfl (flaky_fetches "/d/b") ⟨0, .empty⟩ rfl
  refine ⟨hchildren "/d" ["/d/b"] hlisting flaky_succeeds ⟨0, .empty⟩ rfl, ?_, by decide +kernel⟩
  have haccept : shakyCrawl.tree.wouldInclude (.leaf "/d/b" 2 0)
      (Fingerprint.ofBytes flakyText).indexable = true := by decide +kernel
  rw [hhanded, if_pos haccept]
  rfl

end Harvest
