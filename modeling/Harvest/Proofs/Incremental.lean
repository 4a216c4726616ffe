import Harvest.Proofs.Fate
import Harvest.Proofs.Shelf

/-!
# Crawling again and again

A history is a sequence of passes, each starting from the tokens that the one before has left.
Whatever happens to the store between passes, and whatever fails in them, a last pass in which
nothing fails leaves with the receiver what a first pass over the same store would have handed over,
unless it starts from what misleads it (`history_index_eq_fresh_iff`).

Such a pass relies on what it starts from in three places, each entry on its own
(`Standing.Misleads`). It leaves alone what it does not get to and knows nothing of, it tells the
receiver nothing of a container, and it leaves alone a leaf with the token that is known. In the
first and the last case it goes wrong only where what is known of the entry does not go with what
the receiver holds of it (`InStep`), and there are three ways in which a pass parts the two
(`OutOfStep`).
-/

namespace Harvest

variable {σ : Type}

/-! ## Passes -/

/-- What one pass leaves to the next: the tokens, and what the receiver holds. -/
structure Standing where
  versions : VersionMap
  index : Index

/-- Nothing has been crawled. -/
def Standing.empty : Standing := ⟨∅, fun _ => none⟩

/-- The circumstances of a pass. -/
structure Round (σ : Type) where
  schedule : Schedule
  horizon : Nat
  start : σ

namespace Round

variable (p : Processor (StateM σ)) (seeds : List String) (r : Round σ) (before : Standing)

/-- What the pass comes to. -/
def result : Option (Except CrawlError Report) :=
  (((p.pass r.schedule).run r.horizon seeds before.versions).run r.start).1

/-- What is noted of the pass. -/
def events : List Event :=
  (((p.observed.pass r.schedule).run r.horizon seeds before.versions).run (r.start, [])).2.2

/-- The report of a pass that succeeds. -/
def report? : Option Report := (r.result p seeds before).bind Except.toOption

/-- What the pass leaves. Only a pass that succeeds has new tokens. -/
def after : Standing where
  versions := (r.report? p seeds before).elim before.versions Report.versions
  index := before.index.after (ledger (r.events p seeds before))

/-- The pass comes to an end, and nothing disturbs it. -/
structure Calm : Prop where
  ended : (r.result p seeds before).isSome
  quiet : ∀ event ∈ r.events p seeds before, event.isFault = false

instance : Decidable (r.Calm p seeds before) :=
  decidable_of_iff ((r.result p seeds before).isSome ∧
      ∀ event ∈ r.events p seeds before, event.isFault = false)
    ⟨fun h => ⟨h.1, h.2⟩, fun h => ⟨h.ended, h.quiet⟩⟩

end Round

/-- Passes one after the other. -/
inductive History (σ : Type) where
  | start
  | next (earlier : History σ) (r : Round σ)

namespace History

/-- What the passes leave. -/
def standing (p : Processor (StateM σ)) (seeds : List String) : History σ → Standing
  | start => .empty
  | next earlier r => r.after p seeds (earlier.standing p seeds)

/-- The passes, the last one first. -/
def rounds : History σ → List (Round σ)
  | start => []
  | next earlier r => r :: earlier.rounds

/-- Every pass comes to an end. -/
def Ended (p : Processor (StateM σ)) (seeds : List String) : History σ → Prop
  | start => True
  | next earlier r => earlier.Ended p seeds ∧
      (r.result p seeds (earlier.standing p seeds)).isSome

instance decidableEnded (p : Processor (StateM σ)) (seeds : List String) :
    (h : History σ) → Decidable (h.Ended p seeds)
  | start => .isTrue trivial
  | next earlier _ =>
      have : Decidable (earlier.Ended p seeds) := decidableEnded p seeds earlier
      inferInstanceAs (Decidable (_ ∧ _))

end History

variable {p : Processor (StateM σ)} {view : σ → Snapshot} {judge : ByteArray → Bool} {S : Snapshot}
  {seeds : List String} {id : String} {r : Round σ} {before : Standing} {report : Report}
  {calls : List PassCall} {c : PassCall} {previous : VersionMap} {horizon : Nat} {fault : Prop}
  {deferred : List Deferral} {known known' held : Option String}
  {o : Outcome} {lines : List (String × Option String)} {rounds : List (Round σ)}

/-! ## What is known of a pass -/

/-- A pass over a store that stands still ends in one of the ways of `Ending`, and its notes are
those of its calls. -/
theorem Round.account (seeds : List String) (hm : Mirrors p view judge) (r : Round σ)
    (before : Standing) :
    ∃ calls, Ending before.versions seeds r.horizon calls (r.result p seeds before) ∧
      ledger (r.events p seeds before) = calls.flatMap PassCall.lines ∧
      ∀ c ∈ calls, Reported p judge (view r.start)
        (∃ event ∈ r.events p seeds before, event.isFault = true) c := by
  have hkeeps := written_keeps hm (view r.start) r.schedule before.versions
  have hstart : Written p view judge (view r.start) [] (r.start, []) :=
    ⟨rfl, rfl, fun c hc => by cases hc⟩
  obtain ⟨calls, hend, hwritten⟩ := (run_ensures hkeeps r.horizon seeds).run (r.start, []) hstart
  -- notes aside, the observed pass is the pass
  have hresult := ((observed_follows p r.schedule).run r.horizon seeds before.versions
    (r.start, [])).1
  rw [hresult] at hend
  exact ⟨calls, hend, hwritten.lines, hwritten.reported⟩

theorem Round.report?_eq_some (h : r.report? p seeds before = some report) :
    r.result p seeds before = some (.ok report) := ok_of_toOption h

/-- What a pass that succeeds makes of an entry. -/
theorem Round.fate (hm : Mirrors p view judge) (h : r.report? p seeds before = some report)
    (id : String) :
    ∃ calls, Fate p judge (view r.start) (∃ event ∈ r.events p seeds before, event.isFault = true)
      calls report.deferred id before.versions[id]? (r.after p seeds before).versions[id]?
      (linesOn id (ledger (r.events p seeds before))) := by
  obtain ⟨calls, hend, hlines, hreported⟩ := Round.account seeds hm r before
  rw [Round.report?_eq_some h] at hend
  have hversions : (r.after p seeds before).versions = report.versions := by
    unfold Round.after
    rw [h]
    rfl
  rw [hlines, hversions]
  exact ⟨calls, hend.fate hreported id⟩

/-! ## What is known and what is held -/

/-- What is known of an entry goes with what the receiver holds of it. -/
inductive InStep (p : Processor (StateM σ)) (view : σ → Snapshot) (judge : ByteArray → Bool)
    (id : String) (rounds : List (Round σ)) : Option String → Option String → Prop where
  /-- Nothing is known, and nothing is held. -/
  | unknown : InStep p view judge id rounds none none
  /-- The token was given out in one of the rounds, for a leaf, and the receiver holds what it
  should have held then. -/
  | given {token : String} {held : Option String} {a : Round σ} (ha : a ∈ rounds)
      (hadmits : p.admits (view a.start) id = true)
      (hleaf : (view a.start).isContainer id = false)
      (htoken : token = p.token ((view a.start).entry p.encoder id))
      (hheld : held = p.due judge (view a.start) id) :
      InStep p view judge id rounds (some token) held

/-- A pass has parted what is known of an entry from what the receiver holds of it, and neither has
changed since. -/
inductive OutOfStep (p : Processor (StateM σ)) (view : σ → Snapshot) (seeds : List String)
    (id : String) : History σ → Prop where
  /-- A pass that breaks off leaves the tokens alone, but has changed what is held. -/
  | broken {h : History σ} {r : Round σ}
      (hreport : r.report? p seeds (h.standing p seeds) = none)
      (hchanged : ((h.next r).standing p seeds).index id ≠ (h.standing p seeds).index id) :
      OutOfStep p view seeds id (h.next r)
  /-- A pass that succeeds has changed what is held, but the entry lies below one that has to wait,
  and keeps its token for that. -/
  | sheltered {h : History σ} {r : Round σ} {report : Report}
      (hreport : r.report? p seeds (h.standing p seeds) = some report)
      (hshelter : Sheltered report.deferred id)
      (hsome : (h.standing p seeds).versions[id]?.isSome)
      (hknown : ((h.next r).standing p seeds).versions[id]? = (h.standing p seeds).versions[id]?)
      (hchanged : ((h.next r).standing p seeds).index id ≠ (h.standing p seeds).index id) :
      OutOfStep p view seeds id (h.next r)
  /-- The token was given out for a container, of which the receiver is told nothing. -/
  | opened {h : History σ} {r : Round σ} {report : Report}
      (hreport : r.report? p seeds (h.standing p seeds) = some report)
      (hadmits : p.admits (view r.start) id = true)
      (hkind : (view r.start).isContainer id = true)
      (hknown : ((h.next r).standing p seeds).versions[id]? =
        some (p.token ((view r.start).entry p.encoder id))) :
      OutOfStep p view seeds id (h.next r)
  /-- A pass leaves both as they were. -/
  | still {h : History σ} {r : Round σ} (hbefore : OutOfStep p view seeds id h)
      (hknown : ((h.next r).standing p seeds).versions[id]? = (h.standing p seeds).versions[id]?)
      (hheld : ((h.next r).standing p seeds).index id = (h.standing p seeds).index id) :
      OutOfStep p view seeds id (h.next r)

theorem InStep.mono (h : InStep p view judge id rounds known held) (r : Round σ) :
    InStep p view judge id (r :: rounds) known held := by
  cases h with
  | unknown => exact .unknown
  | given ha hadmits hleaf htoken hheld =>
      exact .given (List.mem_cons_of_mem r ha) hadmits hleaf htoken hheld

/-- **What a pass that succeeds does to what is known and what is held.** It brings them in step, it
leaves what is known, and then it changes what is held only below an entry that has to wait, or it
gives out the token of a container. -/
theorem Fate.turns
    (hfate : Fate p judge (view r.start) fault calls deferred id known known' lines)
    (held : Option String) (rounds : List (Round σ)) :
    InStep p view judge id (r :: rounds) known' (heldAfter held lines) ∨
      (known' = known ∧ (heldAfter held lines = held ∨ known.isSome ∧ Sheltered deferred id)) ∨
      (p.admits (view r.start) id = true ∧ (view r.start).isContainer id = true ∧
        known' = some (p.token ((view r.start).entry p.encoder id))) := by
  cases hfate with
  | left hwait => exact Or.inr (Or.inl ⟨rfl, Or.inl rfl⟩)
  | retired hsome hunvisited => exact Or.inl .unknown
  | told hc ho hknown =>
      rcases hknown with rfl | ⟨hsome, hshelter, rfl⟩
      · rcases ho with hjudged | ⟨⟨reason, rfl⟩, _⟩
        · cases hjudged with
          | taken hdue hadmits hleaf htoken hnew =>
              exact Or.inl (.given List.mem_cons_self hadmits hleaf htoken hdue.symm)
          | dropped hdue hclosed => exact Or.inl .unknown
          | opened hadmits hkind htoken =>
              exact Or.inr (Or.inr ⟨hadmits, hkind, congrArg some htoken⟩)
          | unchanged hadmits hleaf hknown htoken =>
              exact Or.inr (Or.inl ⟨hknown.symm, Or.inl rfl⟩)
        · -- deleted for a failure
          exact Or.inl .unknown
      · exact Or.inr (Or.inl ⟨rfl, Or.inr ⟨hsome, hshelter⟩⟩)

/-- A pass that changes neither what is known nor what is held. -/
theorem step_of_same {h : History σ}
    (ih : InStep p view judge id h.rounds (h.standing p seeds).versions[id]?
      ((h.standing p seeds).index id) ∨ OutOfStep p view seeds id h)
    (hknown : ((h.next r).standing p seeds).versions[id]? = (h.standing p seeds).versions[id]?)
    (hheld : ((h.next r).standing p seeds).index id = (h.standing p seeds).index id) :
    InStep p view judge id (h.next r).rounds ((h.next r).standing p seeds).versions[id]?
      (((h.next r).standing p seeds).index id) ∨ OutOfStep p view seeds id (h.next r) := by
  rcases ih with hin | hout
  · rw [hknown, hheld]
    exact Or.inl (hin.mono r)
  · exact Or.inr (.still hout hknown hheld)

/-- **What is known of an entry goes with what the receiver holds of it**, unless a pass has parted
the two. -/
theorem inStep_or_outOfStep (hm : Mirrors p view judge) (seeds : List String) (id : String)
    (h : History σ) :
    InStep p view judge id h.rounds (h.standing p seeds).versions[id]?
      ((h.standing p seeds).index id) ∨ OutOfStep p view seeds id h := by
  induction h with
  | start =>
      have hnone : (∅ : VersionMap)[id]? = none := Std.TreeMap.getElem?_emptyc
      change InStep p view judge id [] (∅ : VersionMap)[id]? none ∨ _
      rw [hnone]
      exact Or.inl .unknown
  | next h r ih =>
      cases hr : r.report? p seeds (h.standing p seeds) with
      | none =>
          have hversions :
              ((h.next r).standing p seeds).versions = (h.standing p seeds).versions := by
            change (r.report? p seeds (h.standing p seeds)).elim _ _ = _
            rw [hr, Option.elim_none]
          have hknown : ((h.next r).standing p seeds).versions[id]? =
              (h.standing p seeds).versions[id]? := by rw [hversions]
          by_cases hheld : ((h.next r).standing p seeds).index id = (h.standing p seeds).index id
          · exact step_of_same ih hknown hheld
          · exact Or.inr (.broken hr hheld)
      | some report =>
          obtain ⟨calls, hfate⟩ := Round.fate hm hr id
          rcases hfate.turns ((h.standing p seeds).index id) h.rounds with
            hin | ⟨hknown, hheld⟩ | ⟨hadmits, hkind, hknown⟩
          · exact Or.inl hin
          · by_cases hsame : ((h.next r).standing p seeds).index id = (h.standing p seeds).index id
            · exact step_of_same ih hknown hsame
            · obtain ⟨hsome, hshelter⟩ := hheld.resolve_left hsame
              exact Or.inr (.sheltered hr hshelter hsome hknown hsame)
          · exact Or.inr (.opened hr hadmits hkind hknown)

/-! ## Passes that nothing disturbs -/

/-- What a pass that nothing disturbs gets to: the seeds, and what it finds in containers. -/
inductive Processor.Finds (p : Processor (StateM σ)) (S : Snapshot) (seeds : List String) :
    String → Prop where
  | seed {id : String} (h : id ∈ seeds) : p.Finds S seeds id
  | child {parent id : String} (h : p.Finds S seeds parent) (hadmits : p.admits S parent = true)
      (hkind : S.isContainer parent = true) (hid : id ∈ S.children parent) : p.Finds S seeds id

theorem Reported.judged
    (h : Reported p judge S False (.process id known (.ok o))) : Judged p judge S id known o :=
  h.resolve_right (fun h => h.2)

/-- The call has come to an outcome, which leads on as the store says: from a container that is
admitted to its children, and from nothing else. -/
def Expands (p : Processor (StateM σ)) (S : Snapshot) : PassCall → Prop
  | .process id _ (.ok o) =>
      o.children = if p.admits S id && S.isContainer id then S.children id else []
  | .retire _ (.ok o) => o.token? = none
  | _ => False

theorem Judged.children_eq (h : Judged p judge S id known o) :
    o.children = if p.admits S id && S.isContainer id then S.children id else [] := by
  cases h with
  | opened hadmits hkind htoken =>
      rw [hadmits, hkind]
      rfl
  | taken hdue hadmits hleaf htoken =>
      rw [hleaf, Bool.and_false]
      rfl
  | dropped hdue hclosed =>
      rcases hclosed with hclosed | ⟨hleaf, _⟩
      · rw [hclosed]
        rfl
      · rw [hleaf, Bool.and_false]
        rfl
  | unchanged hadmits hleaf hknown htoken =>
      rw [hleaf, Bool.and_false]
      rfl

theorem Reported.expands (h : Reported p judge S False c) : Expands p S c := by
  cases c with
  | process id known result =>
      cases result with
      | ok o => exact h.judged.children_eq
      | error e => exact h
  | retire id result =>
      cases result with
      | ok o =>
          obtain rfl : o = .delete id "no longer reachable from seeds" := h
          rfl
      | error e => exact h
  | stop => exact h

theorem Expands.mem_children {child : String}
    (h : Expands p S (.process id known (.ok o))) :
    child ∈ o.children ↔
      p.admits S id = true ∧ S.isContainer id = true ∧ child ∈ S.children id := by
  rw [show o.children = _ from h]
  split
  · rename_i hopen
    obtain ⟨hadmits, hkind⟩ := Bool.and_eq_true_iff.mp hopen
    exact ⟨fun hid => ⟨hadmits, hkind, hid⟩, fun hid => hid.2.2⟩
  · rename_i hclosed
    exact ⟨nofun, fun hid => absurd (Bool.and_eq_true_iff.mpr ⟨hid.1, hid.2.1⟩) hclosed⟩

theorem silent_of_expands (hexpands : ∀ c ∈ calls, Expands p S c) (id : String) (o : Outcome)
    (hc : PassCall.retire id (.ok o) ∈ calls) : o.token? = none := hexpands _ hc

/-- A pass is led nowhere but where the store leads. -/
theorem Led.finds (hexpands : ∀ c ∈ calls, Expands p S c) (h : Led seeds (visits calls) id) :
    p.Finds S seeds id := by
  induction h with
  | seed hseed => exact .seed hseed
  | @child id v o hv hled ho hid ih =>
      obtain ⟨parent, result⟩ := v
      obtain rfl : result = .ok o := ho
      obtain ⟨known, hc⟩ := mem_visits.mp hv
      obtain ⟨hadmits, hkind, hchild⟩ := (hexpands _ hc).mem_children.mp hid
      exact .child ih hadmits hkind hchild

/-- Undisturbed, a pass succeeds. -/
theorem Ending.succeeds {result : Except CrawlError Report}
    (hend : Ending previous seeds horizon calls (some result))
    (hexpands : ∀ c ∈ calls, Expands p S c) : ∃ report, result = .ok report := by
  cases hend with
  | cancelled honce hled =>
      exact (hexpands .stop (List.mem_append_right _ (List.mem_singleton_self _))).elim
  | @failed done retired e honce hled hcause =>
      rcases hcause with ⟨⟨id, _⟩, hv, rfl, _⟩ | ⟨⟨id, _⟩, hv, rfl⟩
      · exact (hexpands _ (List.mem_append_left _ (List.mem_map_of_mem hv))).elim
      · exact (hexpands _ (List.mem_append_right _ (List.mem_map_of_mem hv))).elim
  | finished hseen hrem horphans houtcomes => exact ⟨_, rfl⟩

/-- Nor does anything have to wait. -/
theorem Ending.no_deferrals (hend : Ending previous seeds horizon calls (some (.ok report)))
    (hexpands : ∀ c ∈ calls, Expands p S c) : report.deferred = [] := by
  refine List.eq_nil_iff_forall_not_mem.mpr (fun d hd => ?_)
  obtain ⟨e, hv⟩ := (hend.reckoned (silent_of_expands hexpands)).waiting d hd
  obtain ⟨known, hc⟩ := mem_visits.mp hv
  exact hexpands _ hc

/-- **What a pass visits is a matter of the store**, not of what was known before. -/
theorem Ending.visited_iff_finds (hend : Ending previous seeds horizon calls (some (.ok report)))
    (hexpands : ∀ c ∈ calls, Expands p S c) : id ∈ visited calls ↔ p.Finds S seeds id := by
  have hsilent := silent_of_expands hexpands
  obtain ⟨progress, hseen, _⟩ := hend.account hsilent
  have hcovered := hend.covered hsilent
  constructor
  · exact fun hvisited => (hseen.led id (List.mem_append_left _ hvisited)).finds hexpands
  · intro hfinds
    induction hfinds with
    | seed hseed => exact hcovered.seeded _ hseed
    | @child parent id hparent hadmits hkind hid ih =>
        obtain ⟨⟨parent, result⟩, hv, rfl⟩ := List.mem_map.mp ih
        obtain ⟨known, hc⟩ := mem_visits.mp hv
        cases result with
        | error e => exact (hexpands _ hc).elim
        | ok o =>
            have hchild := (hexpands _ hc).mem_children.mpr ⟨hadmits, hkind, hid⟩
            rcases hcovered.children _ _ _ hc id hchild with h | ⟨_, d, hd, _⟩
            · exact h
            · -- nothing is sheltered where nothing has to wait
              rw [hend.no_deferrals hexpands] at hd
              cases hd

/-- What the receiver should hold of an entry: what is due of one that a pass gets to, and nothing
of any other. -/
inductive Processor.Agrees (p : Processor (StateM σ)) (judge : ByteArray → Bool) (S : Snapshot)
    (seeds : List String) (id : String) : Option String → Prop where
  | found (hfinds : p.Finds S seeds id) : p.Agrees judge S seeds id (p.due judge S id)
  | missed (hmissed : ¬p.Finds S seeds id) : p.Agrees judge S seeds id none

theorem Processor.agrees_iff_of_finds (hfinds : p.Finds S seeds id) :
    p.Agrees judge S seeds id held ↔ held = p.due judge S id := by
  constructor
  · intro h
    cases h with
    | found _ => rfl
    | missed hmissed => exact absurd hfinds hmissed
  · intro h
    rw [h]
    exact .found hfinds

theorem Processor.agrees_iff_of_missed (hmissed : ¬p.Finds S seeds id) :
    p.Agrees judge S seeds id held ↔ held = none := by
  constructor
  · intro h
    cases h with
    | found hfinds => exact absurd hfinds hmissed
    | missed _ => rfl
  · intro h
    rw [h]
    exact .missed hmissed

theorem Processor.Agrees.unique {held' : Option String} (h : p.Agrees judge S seeds id held)
    (h' : p.Agrees judge S seeds id held') : held = held' := by
  cases h' with
  | found hfinds => exact (p.agrees_iff_of_finds hfinds).mp h
  | missed hmissed => exact (p.agrees_iff_of_missed hmissed).mp h

/-- What a pass starts from leads it to leave with the receiver something that it should not hold of
an entry. -/
inductive Standing.Misleads (before : Standing) (p : Processor (StateM σ))
    (judge : ByteArray → Bool) (S : Snapshot) (seeds : List String) (id : String) : Prop where
  /-- The receiver holds a version, but there is no token, and the pass does not get there. -/
  | overlooked (hmissed : ¬p.Finds S seeds id) (hknown : before.versions[id]? = none)
      (hheld : (before.index id).isSome)
  /-- The receiver holds a version of what is a container now. -/
  | opened (hfinds : p.Finds S seeds id) (hadmits : p.admits S id = true)
      (hkind : S.isContainer id = true) (hheld : (before.index id).isSome)
  /-- The token of a leaf is the one that is known, but what should be held of it is not held. -/
  | trusted (hfinds : p.Finds S seeds id) (hadmits : p.admits S id = true)
      (hleaf : S.isContainer id = false)
      (hknown : before.versions[id]? = some (p.token (S.entry p.encoder id)))
      (hstale : before.index id ≠ p.due judge S id)

theorem Standing.empty_not_misleads : ¬Standing.empty.Misleads p judge S seeds id := by
  have hnone : (∅ : VersionMap)[id]? = none := Std.TreeMap.getElem?_emptyc
  intro h0
  cases h0 with
  | overlooked hmissed hknown hheld => cases hheld
  | opened hfinds hadmits hkind hheld => cases hheld
  | trusted hfinds hadmits hleaf hknown hstale =>
      change (∅ : VersionMap)[id]? = _ at hknown
      rw [hnone] at hknown
      cases hknown

theorem Standing.misleads_iff_of_missed (hmissed : ¬p.Finds S seeds id) :
    before.Misleads p judge S seeds id ↔
      before.versions[id]? = none ∧ (before.index id).isSome := by
  constructor
  · intro h
    cases h with
    | overlooked _ hknown hheld => exact ⟨hknown, hheld⟩
    | opened hfinds hadmits hkind hheld => exact absurd hfinds hmissed
    | trusted hfinds hadmits hleaf hknown hstale => exact absurd hfinds hmissed
  · exact fun h => .overlooked hmissed h.1 h.2

/-- About an entry that is found, a pass may be misled in one way if it is a container, and in one
if it is a leaf. -/
theorem Standing.misleads_iff_of_finds (hfinds : p.Finds S seeds id) :
    before.Misleads p judge S seeds id ↔ p.admits S id = true ∧
      ((S.isContainer id = true ∧ (before.index id).isSome) ∨
        (S.isContainer id = false ∧
          before.versions[id]? = some (p.token (S.entry p.encoder id)) ∧
          before.index id ≠ p.due judge S id)) := by
  constructor
  · intro h
    cases h with
    | overlooked hmissed hknown hheld => exact absurd hfinds hmissed
    | opened _ hadmits hkind hheld => exact ⟨hadmits, Or.inl ⟨hkind, hheld⟩⟩
    | trusted _ hadmits hleaf hknown hstale => exact ⟨hadmits, Or.inr ⟨hleaf, hknown, hstale⟩⟩
  · intro h
    obtain ⟨hadmits, ⟨hkind, hheld⟩ | ⟨hleaf, hknown, hstale⟩⟩ := h
    · exact .opened hfinds hadmits hkind hheld
    · exact .trusted hfinds hadmits hleaf hknown hstale

/-- An outcome leaves what is due of an entry that is found, unless the pass is misled about it. -/
theorem Judged.held_eq_due_iff (h : Judged p judge S id before.versions[id]? o)
    (hfinds : p.Finds S seeds id) :
    heldAfter (before.index id) o.lines = p.due judge S id ↔
      ¬before.Misleads p judge S seeds id := by
  rw [Standing.misleads_iff_of_finds hfinds]
  cases h with
  | taken hdue hadmits hleaf htoken hnew =>
      refine iff_of_true hdue.symm (fun hmisled => ?_)
      obtain ⟨_, ⟨hkind, _⟩ | ⟨_, hknown, _⟩⟩ := hmisled
      · exact absurd (hleaf.symm.trans hkind) Bool.false_ne_true
      · exact hnew (htoken ▸ hknown)
  | dropped hdue hclosed =>
      refine iff_of_true hdue.symm (fun hmisled => ?_)
      obtain ⟨hadmits, hrest⟩ := hmisled
      rcases hclosed with hclosed | ⟨hleaf, hnew⟩
      · exact absurd (hclosed.symm.trans hadmits) Bool.false_ne_true
      · rcases hrest with ⟨hkind, _⟩ | ⟨_, hknown, _⟩
        · exact absurd (hleaf.symm.trans hkind) Bool.false_ne_true
        · exact hnew hknown
  | opened hadmits hkind htoken =>
      -- nothing is due of a container, and what is held stays
      rw [due_container hkind, hadmits, hkind]
      change before.index id = none ↔ _
      simp
  | unchanged hadmits hleaf hknown htoken =>
      -- what is held stays, with the token that was relied on
      rw [hadmits, hleaf, hknown, htoken]
      change before.index id = p.due judge S id ↔ _
      simp

/-- Undisturbed, a pass leaves what the receiver should hold unless it is misled. -/
theorem Fate.agrees_iff {versions' : Option String}
    (hfate : Fate p judge S False calls [] id before.versions[id]? versions' lines)
    (hvisited : id ∈ visited calls ↔ p.Finds S seeds id) :
    p.Agrees judge S seeds id (heldAfter (before.index id) lines) ↔
      ¬before.Misleads p judge S seeds id := by
  cases hfate with
  | retired hsome hunvisited =>
      have hmissed : ¬p.Finds S seeds id := fun hfinds => hunvisited (hvisited.mpr hfinds)
      rw [Standing.misleads_iff_of_missed hmissed]
      exact iff_of_true (.missed hmissed)
        (fun hmisled => Option.isSome_iff_ne_none.mp hsome hmisled.1)
  | left hwait =>
      rcases hwait with ⟨d, hd, _⟩ | ⟨hknown, hunvisited⟩
      · -- nothing has to wait
        cases hd
      · have hmissed : ¬p.Finds S seeds id := fun hfinds => hunvisited (hvisited.mpr hfinds)
        rw [p.agrees_iff_of_missed hmissed, Standing.misleads_iff_of_missed hmissed, hknown]
        change before.index id = none ↔ _
        simp
  | told hc ho hknown =>
      have hfinds : p.Finds S seeds id := hvisited.mp (mem_visited hc)
      rw [p.agrees_iff_of_finds hfinds]
      exact ho.judged.held_eq_due_iff hfinds

/-- What a pass that nothing disturbs leaves with the receiver is a matter of the store, unless the
pass is misled. -/
theorem Round.Calm.agrees_iff (hm : Mirrors p view judge) (hcalm : r.Calm p seeds before)
    (id : String) :
    p.Agrees judge (view r.start) seeds id ((r.after p seeds before).index id) ↔
      ¬before.Misleads p judge (view r.start) seeds id := by
  obtain ⟨calls, hend, hlines, hreported⟩ := Round.account seeds hm r before
  have hreported : ∀ c ∈ calls, Reported p judge (view r.start) False c := by
    refine fun c hc => (hreported c hc).mono ?_
    intro h0
    obtain ⟨event, hevent, hfault⟩ := h0
    rw [hcalm.quiet event hevent] at hfault
    cases hfault
  obtain ⟨result, hresult⟩ := Option.isSome_iff_exists.mp hcalm.ended
  rw [hresult] at hend
  have hexpands : ∀ c ∈ calls, Expands p (view r.start) c := fun c hc => (hreported c hc).expands
  obtain ⟨report, rfl⟩ := hend.succeeds hexpands
  have hfate := hend.fate hreported id
  rw [hend.no_deferrals hexpands, ← hlines] at hfate
  exact hfate.agrees_iff (hend.visited_iff_finds hexpands)

/-- A pass over what is in step is misled by nothing but a container. -/
theorem InStep.container_of_misleads
    (h : InStep p view judge id rounds before.versions[id]? (before.index id))
    (hcontents : ∀ a ∈ rounds, KeepsContent (view a.start) S id)
    (hmisled : before.Misleads p judge S seeds id) :
    p.admits S id = true ∧ S.isContainer id = true := by
  cases hmisled with
  | overlooked hmissed hknown hheld =>
      -- what is not known is not held
      generalize before.versions[id]? = known at h hknown
      generalize before.index id = held at h hheld
      cases h with
      | unknown => cases hheld
      | given ha hadmits hleaf htoken hdue => cases hknown
  | opened hfinds hadmits hkind hheld => exact ⟨hadmits, hkind⟩
  | trusted hfinds hadmits hleaf hknown hstale =>
      rw [hknown] at h
      generalize before.index id = held at h hstale
      cases h with
      | given ha hadmits' hleaf' htoken hdue =>
          -- the token stands for the same as when it was given out
          exact absurd (hdue.trans (due_congr hadmits' hadmits hleaf' hleaf htoken.symm
            (hcontents _ ha))) hstale

/-- **Crawling again comes to the same as crawling afresh** for every entry about which the last
pass is not misled, and for no other. Let nothing disturb the last pass of a history, and let no
leaf have come by other content with the same modification time and length. Then the receiver holds
of an entry what it would hold after nothing but an undisturbed pass over the same store, exactly if
what the last pass starts from does not mislead it about the entry. It is misled only about a
container, or if the history brought what is known of the entry out of step with what is held. -/
theorem history_index_eq_fresh_iff (p : Processor (StateM σ)) (view : σ → Snapshot)
    (judge : ByteArray → Bool) (hm : Mirrors p view judge) (seeds : List String) (h : History σ)
    (last fresh : Round σ) (hlast : last.Calm p seeds (h.standing p seeds))
    (hfresh : fresh.Calm p seeds .empty) (hsame : view fresh.start = view last.start) (id : String)
    (hcontents : ∀ a ∈ h.rounds, KeepsContent (view a.start) (view last.start) id) :
    (((h.next last).standing p seeds).index id =
        ((History.start.next fresh).standing p seeds).index id ↔
      ¬(h.standing p seeds).Misleads p judge (view last.start) seeds id) ∧
    ((h.standing p seeds).Misleads p judge (view last.start) seeds id →
      (p.admits (view last.start) id = true ∧ (view last.start).isContainer id = true) ∨
        OutOfStep p view seeds id h) := by
  have hagain := hlast.agrees_iff hm id
  -- nothing misleads a first pass
  have hafresh := (hfresh.agrees_iff hm id).mpr Standing.empty_not_misleads
  rw [hsame] at hafresh
  refine ⟨⟨fun heq => hagain.mp ?_, fun hsound => (hagain.mpr hsound).unique hafresh⟩, ?_⟩
  · rw [show (last.after p seeds (h.standing p seeds)).index id = _ from heq]
    exact hafresh
  · intro hmisled
    rcases inStep_or_outOfStep hm seeds id h with hin | hout
    · exact Or.inl (hin.container_of_misleads hcontents hmisled)
    · exact Or.inr hout

/-- A container `/` that lists `/a`, and leaves with their modification times and contents. -/
def folder (leaves : List (String × Int64 × ByteArray)) : Snapshot where
  present := fun id => id == "/" || leaves.any (fun leaf => leaf.1 == id)
  isContainer := fun id => id == "/"
  modified := fun id => (leaves.lookup id).elim 0 Prod.fst
  length := fun id => (leaves.lookup id).elim 0 (fun leaf => leaf.2.size.toUInt64)
  children := fun id => if id = "/" then ["/a"] else []
  content := fun id => (leaves.lookup id).elim .empty Prod.snd
  access := fun _ => none
  containerAccess := fun _ => none

/-- What the folder holds, with containers in the place of leaves. -/
def folderOfFolders (leaves : List (String × Int64 × ByteArray)) : Snapshot :=
  { folder leaves with isContainer := fun _ => true }

/-- A crawl that takes in every leaf of a shelf. -/
def takingCrawl : Processor (StateM Shelf) := shelfCrawl .everything .standard

/-- What the passes over the folder start from. -/
def folderSeeds : List String := ["/", "/b"]

/-- A pass over what the shelf holds, with listing in order or failing. -/
def shelfRound (S : Snapshot) (trouble : Option Failure) : Round Shelf :=
  ⟨.inOrder, 3, ⟨S, .empty, trouble⟩⟩

/-- Two leaves are there. -/
def filledRound : Round Shelf :=
  shelfRound (folder [("/a", 1, ⟨#[97]⟩), ("/b", 1, ⟨#[98]⟩)]) none

/-- One leaf has changed, and the container cannot be listed. -/
def stalledRound : Round Shelf :=
  shelfRound (folder [("/a", 2, ⟨#[97, 97]⟩), ("/b", 1, ⟨#[98]⟩)])
    (some (.of (.system .timedOut "stalled")))

/-- The other leaf is gone. -/
def thinnedRound : Round Shelf := shelfRound (folder [("/a", 2, ⟨#[97, 97]⟩)]) none

/-- The leaves are taken in, and the change has to wait. -/
def stalledHistory : History Shelf := .next (.next .start filledRound) stalledRound

/-- A pass that breaks off has told the receiver of what it leaves no token for. -/
def brokenRound : Round Shelf :=
  shelfRound (folder [("/a", 1, ⟨#[97]⟩), ("/b", 2, ⟨#[99]⟩)]) (some (.plain "broken"))

/-- The same store, in order. -/
def mendedRound : Round Shelf := shelfRound brokenRound.start.snapshot none

/-- The leaves are taken in, and the pass over the change breaks off. -/
def brokenHistory : History Shelf := .next (.next .start filledRound) brokenRound

/-- After the history, a pass leaves of an entry what it leaves after nothing. -/
def Recovers (p : Processor (StateM Shelf)) (h : History Shelf) (last : Round Shelf)
    (id : String) : Prop :=
  ((h.next last).standing p folderSeeds).index id =
    ((History.start.next last).standing p folderSeeds).index id

instance (p : Processor (StateM Shelf)) (h : History Shelf) (last : Round Shelf) (id : String) :
    Decidable (Recovers p h last id) := inferInstanceAs (Decidable (_ = _))

theorem mem_of_present_folder {leaves : List (String × Int64 × ByteArray)}
    (h : (folder leaves).present id = true) : id ∈ "/" :: leaves.map Prod.fst := by
  rcases Bool.or_eq_true_iff.mp h with hroot | hleaf
  · exact List.mem_cons.mpr (Or.inl (eq_of_beq hroot))
  · obtain ⟨leaf, hmem, hid⟩ := List.any_eq_true.mp hleaf
    exact List.mem_cons_of_mem _ (List.mem_map.mpr ⟨leaf, hmem, eq_of_beq hid⟩)

theorem stalled_keeps : ∀ a ∈ stalledHistory.rounds, ∀ id ∈ ["/a", "/b"],
    KeepsContent a.start.snapshot thinnedRound.start.snapshot id := by
  decide +kernel

theorem broken_keeps : ∀ a ∈ brokenHistory.rounds, ∀ last ∈ [filledRound, mendedRound],
    ∀ id ∈ ["/", "/a", "/b"], KeepsContent a.start.snapshot last.start.snapshot id := by
  decide +kernel

/-- After the stalled history, the leaf that has changed is taken in again, and the one that is gone
is deleted. After a pass that broke off, the next one takes in again what it finds; only if the leaf
is as it was before the broken pass, the next one is misled. -/
theorem history_index_eq_fresh_iff_shelf :
    Recovers takingCrawl stalledHistory thinnedRound "/a" ∧
      Recovers takingCrawl stalledHistory thinnedRound "/b" ∧
      Recovers takingCrawl (.next .start brokenRound) mendedRound "/b" ∧
      Recovers takingCrawl brokenHistory mendedRound "/b" ∧
      OutOfStep takingCrawl Shelf.snapshot folderSeeds "/b" brokenHistory := by
  have hroot : takingCrawl.Finds thinnedRound.start.snapshot folderSeeds "/" := .seed (by decide)
  have hlisted : takingCrawl.Finds thinnedRound.start.snapshot folderSeeds "/a" :=
    .child hroot (by decide +kernel) (by decide +kernel) (by decide +kernel)
  have hseed : ∀ S, takingCrawl.Finds S folderSeeds "/b" := fun S => .seed (by decide)
  have hcrawl := fun (h : History Shelf) (last : Round Shelf) hlast hfresh =>
    history_index_eq_fresh_iff takingCrawl Shelf.snapshot shelfJudge shelf_mirrors folderSeeds h
      last last hlast hfresh rfl
  have hstalled := hcrawl stalledHistory thinnedRound (by decide +kernel) (by decide +kernel)
  have hmended : mendedRound.Calm takingCrawl folderSeeds .empty := by decide +kernel
  refine ⟨?_, ?_, ?_, ?_, ?_⟩
  · refine (hstalled "/a" (fun a ha => stalled_keeps a ha "/a" (by decide))).1.mpr ?_
    rw [Standing.misleads_iff_of_finds hlisted]
    decide +kernel
  · refine (hstalled "/b" (fun a ha => stalled_keeps a ha "/b" (by decide))).1.mpr ?_
    rw [Standing.misleads_iff_of_finds (hseed _)]
    decide +kernel
  · refine (hcrawl (.next .start brokenRound) mendedRound (by decide +kernel) hmended "/b"
      (List.forall_mem_singleton.mpr (.refl _ _))).1.mpr ?_
    rw [Standing.misleads_iff_of_finds (hseed _)]
    decide +kernel
  · refine (hcrawl brokenHistory mendedRound (by decide +kernel) hmended "/b"
      (fun a ha => broken_keeps a ha _ (by simp) "/b" (by decide))).1.mpr ?_
    rw [Standing.misleads_iff_of_finds (hseed _)]
    decide +kernel
  · -- the leaf is as it was before the broken pass, and no container
    refine ((hcrawl brokenHistory filledRound (by decide +kernel) (by decide +kernel) "/b"
      (fun a ha => broken_keeps a ha _ (by simp) "/b" (by decide))).2 ?_).resolve_left ?_
    · exact (Standing.misleads_iff_of_finds (hseed _)).mpr (by decide +kernel)
    · exact fun hopen => absurd hopen.2 (by decide +kernel)

/-- All passes come to an end, and nothing disturbs the last one; still the receiver holds something
else of an entry than after a first pass, though no leaf has changed its content without changing
its modification time or its length. -/
def Strays (p : Processor (StateM Shelf)) (h : History Shelf) (last : Round Shelf) (id : String) :
    Prop :=
  (h.Ended p folderSeeds ∧ last.Calm p folderSeeds (h.standing p folderSeeds) ∧
      last.Calm p folderSeeds .empty ∧ ¬Recovers p h last id) ∧
    ∀ a ∈ h.rounds, ∀ leaf, KeepsContent a.start.snapshot last.start.snapshot leaf

/-- Of a leaf that has become a container the receiver is told nothing. -/
def turnedRound : Round Shelf := shelfRound (folderOfFolders [("/a", 2, .empty)]) none

/-- A container and an empty leaf can have the same token. -/
def emptiedRound : Round Shelf := shelfRound (folder [("/a", 2, .empty)]) none

/-- A crawl in which listing goes well, and deleting runs into the trouble. -/
def clingingCrawl : Processor (StateM Shelf) :=
  { takingCrawl with
    store := { takingCrawl.store with
      children := fun id => do return .ofList ((← get).snapshot.children id) }
    sink := { takingCrawl.sink with
      delete := fun _ => ExceptT.mk do return (← get).trouble.elim (.ok ()) .error } }

/-- Another leaf is in the place of `/a`, which cannot be deleted. -/
def clungRound : Round Shelf :=
  shelfRound
    { folder [("/c", 1, ⟨#[99]⟩), ("/b", 1, ⟨#[98]⟩)] with
      children := fun id => if id = "/" then ["/c"] else [] }
    (some (.plain "broken"))

/-- A leaf is taken in before the pass breaks off. -/
def clungHistory : History Shelf := .next (.next .start filledRound) clungRound

/-- Nothing is left in the folder. -/
def clearedRound : Round Shelf := shelfRound { folder [] with children := fun _ => [] } none

theorem clinging_mirrors : Mirrors clingingCrawl Shelf.snapshot shelfJudge :=
  have hshelf : Mirrors takingCrawl Shelf.snapshot shelfJudge := shelf_mirrors
  { hshelf with
    keeps := fun S =>
      have hconduct : Conduct takingCrawl (Keeping (fun s => s.snapshot = S)) (fun _ => True) :=
        shelf_conduct S
      { hconduct with
        children := fun _ => kept_attempts ⟨fun _ hs => hs⟩ _
        delete := fun _ _ => kept_quiet ⟨fun _ hs => hs⟩
        delete_mark := fun _ => kept_mark _ }
    children := by
      intro s id _ h _
      cases h
      rfl }

theorem turned_strays : Strays takingCrawl (.next .start filledRound) turnedRound "/a" := by
  refine ⟨by decide +kernel, ?_⟩
  -- no leaf is left
  intro a _ leaf _ _ _ hleaf
  cases hleaf

theorem emptied_strays : Strays takingCrawl (.next .start turnedRound) emptiedRound "/a" := by
  refine ⟨by decide +kernel, ?_⟩
  -- there was no leaf before
  intro a ha leaf _ _ hleaf
  obtain rfl := List.mem_singleton.mp ha
  cases hleaf

theorem broken_strays : Strays takingCrawl brokenHistory filledRound "/b" := by
  refine ⟨by decide +kernel, ?_⟩
  intro a ha leaf hbefore hpresent
  have hleaf := mem_of_present_folder hpresent
  exact broken_keeps a ha _ List.mem_cons_self leaf hleaf hbefore hpresent

theorem overlooked_strays : Strays clingingCrawl clungHistory clearedRound "/c" := by
  refine ⟨by decide +kernel, ?_⟩
  -- no leaf is left
  intro a _ leaf _ hpresent _ hleaf
  have hroot : leaf ∈ ["/"] := mem_of_present_folder hpresent
  obtain rfl := List.mem_singleton.mp hroot
  cases hleaf

/-- **Crawling again does not always come to the same as crawling afresh**: not after a leaf has
become a container, or a container an empty leaf, nor after a pass that broke off has taken in a
leaf that is then as it was before, or is not found again. -/
theorem history_strays :
    Mirrors takingCrawl Shelf.snapshot shelfJudge ∧
      Mirrors clingingCrawl Shelf.snapshot shelfJudge ∧
      Strays takingCrawl (.next .start filledRound) turnedRound "/a" ∧
      Strays takingCrawl (.next .start turnedRound) emptiedRound "/a" ∧
      Strays takingCrawl brokenHistory filledRound "/b" ∧
      Strays clingingCrawl clungHistory clearedRound "/c" :=
  ⟨shelf_mirrors, clinging_mirrors, turned_strays, emptied_strays, broken_strays, overlooked_strays⟩

end Harvest
