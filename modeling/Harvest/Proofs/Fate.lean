import Harvest.Proofs.Coverage
import Harvest.Proofs.Mirror

/-!
# What a pass makes of an entry

A pass that succeeds over a store that stands still makes one of three things of an entry (`Fate`).
It tells the receiver what processing came to, it leaves the entry as it was, or it retires it. In
each case one knows which token the report has for the entry, and what the ledger says of it.

No entry is told of twice, since none is visited twice and what is retired was not visited. So what
the ledger says of an entry is what the one call about it says.
-/

namespace Harvest

variable {σ : Type} {p : Processor (StateM σ)} {view : σ → Snapshot} {judge : ByteArray → Bool}
  {S : Snapshot} {fault : Prop} {previous : VersionMap} {seeds : List String} {horizon : Nat}
  {calls : List PassCall} {report : Report} {c : PassCall} {id : String} {known : Option String}
  {o : Outcome} {s s' : σ × List Event}

/-! ## What the receiver holds -/

/-- Which version of each entry the receiver holds. -/
abbrev Index := String → Option String

/-- The lines of a ledger about an entry. -/
def linesOn (id : String) (lines : List (String × Option String)) : List (String × Option String) :=
  lines.filter (fun line => line.1 = id)

/-- What is held of an entry after some lines about it: the last one decides. -/
def heldAfter (held : Option String) (lines : List (String × Option String)) : Option String :=
  lines.foldl (fun _ line => line.2) held

/-- What the receiver holds after a ledger. -/
def Index.after (held : Index) (lines : List (String × Option String)) : Index := fun id =>
  heldAfter (held id) (linesOn id lines)

theorem linesOn_append (before after : List (String × Option String)) :
    linesOn id (before ++ after) = linesOn id before ++ linesOn id after := List.filter_append _ _

/-! ## What the calls of a pass say -/

/-- What a call of a pass adds to the ledger. -/
def PassCall.lines : PassCall → List (String × Option String)
  | .process _ _ (.ok o) => o.lines
  | .retire _ (.ok o) => o.lines
  | _ => []

/-- The entry that a call of a pass is about. -/
def PassCall.id? : PassCall → Option String
  | .process id _ _ => some id
  | .retire id _ => some id
  | .stop => none

/-- What a call of a pass can come to. Whatever does not follow from the snapshot is due to a fault.
-/
def Reported (p : Processor (StateM σ)) (judge : ByteArray → Bool) (S : Snapshot) (fault : Prop) :
    PassCall → Prop
  | .process id known (.ok o) =>
      Judged p judge S id known o ∨ ((∃ reason, o = .delete id reason) ∧ fault)
  | .process _ _ (.error _) => fault
  | .retire id (.ok o) => o = .delete id "no longer reachable from seeds"
  | .retire _ (.error _) => fault
  | .stop => fault

theorem Judged.id_eq (h : Judged p judge S id known o) : o.id = id := by cases h <;> rfl

theorem Reported.id_eq (h : Reported p judge S fault (.process id known (.ok o))) : o.id = id := by
  rcases h with h | ⟨⟨reason, rfl⟩, _⟩
  · exact h.id_eq
  · rfl

theorem Reported.mono {fault' : Prop} (h : Reported p judge S fault c) (hmore : fault → fault') :
    Reported p judge S fault' c := by
  cases c with
  | process id known result =>
      cases result with
      | ok o => exact h.imp_right (fun h => ⟨h.1, hmore h.2⟩)
      | error e => exact hmore h
  | retire id result =>
      cases result with
      | ok o => exact h
      | error e => exact hmore h
  | stop => exact hmore h

/-- The lines of an outcome are about its entry. -/
theorem mem_outcome_lines {line : String × Option String} (h : line ∈ o.lines) : line.1 = o.id := by
  cases o with
  | ingest id token bytes =>
      obtain rfl := List.mem_singleton.mp h
      rfl
  | delete id reason =>
      obtain rfl := List.mem_singleton.mp h
      rfl
  | skip id reason token => cases h

/-- The outcome of a call is about its own entry. -/
def PassCall.Proper : PassCall → Prop
  | .process id _ (.ok o) => o.id = id
  | .retire id (.ok o) => o.id = id
  | _ => True

theorem Reported.proper (h : Reported p judge S fault c) : c.Proper := by
  cases c with
  | process id known result =>
      cases result with
      | ok o => exact h.id_eq
      | error e => trivial
  | retire id result =>
      cases result with
      | ok o => exact congrArg Outcome.id h
      | error e => trivial
  | stop => trivial

theorem Sound.proper {inv : σ → Prop} (h : Sound p inv c) : c.Proper := by
  cases c with
  | process id known result =>
      cases result with
      | ok o => exact (h o rfl).1
      | error e => trivial
  | retire id result =>
      cases result with
      | ok o => exact congrArg Outcome.id (h o rfl)
      | error e => trivial
  | stop => trivial

/-- A proper call tells the receiver of no other entry than its own. -/
theorem PassCall.Proper.lines (h : c.Proper) : ∀ line ∈ c.lines, c.id? = some line.1 := by
  intro line hline
  cases c with
  | process id known result =>
      cases result with
      | ok o => exact congrArg some ((h : o.id = id).symm.trans (mem_outcome_lines hline).symm)
      | error e => cases hline
  | retire id result =>
      cases result with
      | ok o => exact congrArg some ((h : o.id = id).symm.trans (mem_outcome_lines hline).symm)
      | error e => cases hline
  | stop => cases hline

/-! ## What the calls of an observed pass come to -/

variable {inv : σ → Prop}

/-- What a call of a pass comes to: a verdict about its entry, unless there is a fault. -/
def Grounded (p : Processor (StateM σ)) (inv : σ → Prop) (fault : Prop) : PassCall → Prop
  | .process id known (.ok o) =>
      Verdict p inv id known o ∨ ((∃ reason, o = .delete id reason) ∧ fault)
  | .process _ _ (.error _) => fault
  | .retire id (.ok o) => o = .delete id "no longer reachable from seeds"
  | .retire _ (.error _) => fault
  | .stop => fault

/-- **What an observed pass keeps.** It is enough that each call keeps it which comes to what a call
can come to, and notes it. -/
theorem observed_keeps {keep : List PassCall → σ × List Event → Prop}
    (h : Conduct p (Keeping inv) (fun _ => True)) (schedule : Schedule) (previous : VersionMap)
    (hinv : ∀ calls s, keep calls s → inv s.1)
    (hstep : ∀ calls c told s s', keep calls s → Noted inv s.2 told s' →
      told.elim [] Outcome.lines = c.lines → Grounded p inv (Faulty s') c → keep (calls ++ [c]) s')
    (hsilent : ∀ calls s s', keep calls s → Noted inv s.2 none s' → keep calls s') :
    Keeps (p.observed.pass schedule) previous keep := by
  -- what is noted is reckoned from the notes before the call
  have hconduct := fun s : σ × List Event => conduct_observed h s.2
  have hnoted : ∀ calls s, keep calls s → ∀ t, t = s → Noted inv s.2 none t := by
    rintro calls s hs t rfl
    exact ⟨hinv calls t hs, List.prefix_refl _, (List.append_nil _).symm⟩
  exact
    { process := by
        intro calls id
        refine .from_each (fun s hs => (process_spec (hconduct s) id _).imp (hnoted calls s hs)
          (fun result s' hspec => ?_))
        cases result with
        | error e => exact hstep calls _ none s s' hs hspec.1.1 rfl hspec.1.2
        | ok o =>
            exact hstep calls _ (some o) s s' hs hspec.1 rfl
              (hspec.2.imp_left (fun hv => hv.unobserved))
      retire := by
        intro calls id
        refine .from_each (fun s hs => (retire_spec (hconduct s) id).imp (hnoted calls s hs)
          (fun result s' hspec => ?_))
        cases result with
        | error e => exact hstep calls _ none s s' hs hspec.1.1 rfl hspec.1.2
        | ok o => exact hstep calls _ (some o) s s' hs hspec.1 rfl hspec.2
      isCancelled := by
        intro calls
        refine .from_each (fun s hs => (hconduct s).isCancelled.imp (hnoted calls s hs)
          (fun cancelled s' hspec => ?_))
        cases cancelled with
        | true => exact hstep calls .stop none s s' hs hspec.1 rfl (hspec.2 rfl)
        | false => exact hsilent calls s s' hs hspec.1
      warn := by
        intro calls w
        refine .from_each (fun s hs => (((hconduct s).warn w).stage none).imp (hnoted calls s hs)
          (fun _ s' hspec => hsilent calls s s' hs hspec)) }

/-! ## A pass over a store that stands still -/

/-- The state of an observed pass after some calls: the store is as it was, the ledger is that of
the calls, and they came to what they can come to. -/
structure Written (p : Processor (StateM σ)) (view : σ → Snapshot) (judge : ByteArray → Bool)
    (S : Snapshot) (calls : List PassCall) (s : σ × List Event) : Prop where
  still : view s.1 = S
  lines : ledger s.2 = calls.flatMap PassCall.lines
  reported : ∀ c ∈ calls, Reported p judge S (Faulty s) c

theorem Grounded.reported (hm : Mirrors p view judge)
    (h : Grounded p (fun s => view s = S) fault c) : Reported p judge S fault c := by
  cases c with
  | process id known result =>
      cases result with
      | ok o => exact h.imp_left (fun hv => (planned_of_verdict (hm.still S) hv).judged)
      | error e => exact h
  | retire id result =>
      cases result with
      | ok o => exact h
      | error e => exact h
  | stop => exact h

/-- One more call. -/
theorem Written.step (h : Written p view judge S calls s) {told : Option Outcome}
    (hs : Noted (fun t => view t = S) s.2 told s') (hlines : told.elim [] Outcome.lines = c.lines)
    (hc : Reported p judge S (Faulty s') c) : Written p view judge S (calls ++ [c]) s' := by
  obtain ⟨hstill, hmore, hledger⟩ := hs
  refine ⟨hstill, ?_, ?_⟩
  · rw [hledger, h.lines, hlines, List.flatMap_append, List.flatMap_singleton]
  · intro c' hc'
    rcases List.mem_append.mp hc' with hold | hnew
    · -- a fault that was noted stays noted
      exact (h.reported c' hold).mono (fun hfault => hfault.mono hmore)
    · exact List.mem_singleton.mp hnew ▸ hc

theorem Written.silent (h : Written p view judge S calls s)
    (hs : Noted (fun t => view t = S) s.2 none s') : Written p view judge S calls s' := by
  obtain ⟨hstill, hmore, hledger⟩ := hs
  refine ⟨hstill, ?_, fun c hc => (h.reported c hc).mono (fun hfault => hfault.mono hmore)⟩
  rw [hledger, h.lines]
  exact List.append_nil _

/-- **Every call of an observed pass is written down.** -/
theorem written_keeps (hm : Mirrors p view judge) (S : Snapshot) (schedule : Schedule)
    (previous : VersionMap) : Keeps (p.observed.pass schedule) previous (Written p view judge S) :=
  observed_keeps (hm.keeps S) schedule previous (fun _ _ hs => hs.still)
    (fun _ _ _ _ _ hs hnoted hlines hc => hs.step hnoted hlines (hc.reported hm))
    (fun _ _ _ hs hnoted => hs.silent hnoted)

/-! ## The ledger of a pass -/

theorem linesOn_flatMap_of_not_mem (hproper : ∀ c ∈ calls, c.Proper)
    (h : id ∉ calls.filterMap PassCall.id?) : linesOn id (calls.flatMap PassCall.lines) = [] := by
  refine List.filter_eq_nil_iff.mpr (fun line hline => ?_)
  obtain ⟨c, hc, hmem⟩ := List.mem_flatMap.mp hline
  intro hid
  have hid : line.1 = id := of_decide_eq_true hid
  exact h (List.mem_filterMap.mpr ⟨c, hc, hid ▸ (hproper c hc).lines line hmem⟩)

/-- The ledger says of an entry what the one call about it says. -/
theorem linesOn_flatMap (hproper : ∀ c ∈ calls, c.Proper)
    (honce : (calls.filterMap PassCall.id?).Nodup) (hc : c ∈ calls) (hid : c.id? = some id) :
    linesOn id (calls.flatMap PassCall.lines) = c.lines := by
  -- the calls before and after this one are about other entries
  obtain ⟨before, after, rfl⟩ := List.append_of_mem hc
  rw [List.filterMap_append, List.filterMap_cons_some hid, List.nodup_append] at honce
  obtain ⟨_, hafter, hapart⟩ := honce
  have hbefore : id ∉ before.filterMap PassCall.id? := fun h =>
    hapart id h id List.mem_cons_self rfl
  have hown : linesOn id c.lines = c.lines := by
    refine List.filter_eq_self.mpr (fun line hline => decide_eq_true ?_)
    exact Option.some.inj (((hproper c hc).lines line hline).symm.trans hid)
  rw [List.flatMap_append, List.flatMap_cons, linesOn_append, linesOn_append, hown,
    linesOn_flatMap_of_not_mem (fun c' h => hproper c' (List.mem_append_left _ h)) hbefore,
    linesOn_flatMap_of_not_mem
      (fun c' h => hproper c' (List.mem_append_right _ (List.mem_cons_of_mem c h)))
      (List.nodup_cons.mp hafter).1,
    List.nil_append, List.append_nil]

theorem ids_passCalls {done retired : List Visit} :
    (passCalls previous done retired).filterMap PassCall.id? =
      done.map Prod.fst ++ retired.map Prod.fst := by
  rw [passCalls, List.filterMap_append, List.filterMap_map, List.filterMap_map]
  exact congrArg₂ (· ++ ·) (congrFun List.filterMap_eq_map done)
    (congrFun List.filterMap_eq_map retired)

/-- No entry has two calls of a pass that succeeds. -/
theorem Ending.ids_nodup (hend : Ending previous seeds horizon calls (some (.ok report))) :
    (calls.filterMap PassCall.id?).Nodup := by
  cases hend with
  | @finished done retired progress outcomes hseen hrem horphans houtcomes =>
      have honce := hseen.once
      rw [List.append_nil] at honce
      rw [ids_passCalls, horphans, List.nodup_append]
      refine ⟨honce, nodup_orphans _ _, ?_⟩
      intro a ha b hb heq
      obtain rfl := heq
      -- what is retired has not been seen
      refine (mem_orphans.mp hb).2 ((hseen.seen a).mpr (Or.inl ?_))
      exact List.mem_append_left _ ha

theorem mem_retirees : id ∈ retirees calls ↔ ∃ result, PassCall.retire id result ∈ calls := by
  unfold retirees
  rw [List.mem_filterMap]
  constructor
  · intro h0
    obtain ⟨c, hc, hid⟩ := h0
    cases c with
    | process id known result => cases hid
    | retire id' result =>
        obtain rfl := Option.some.inj hid
        exact ⟨result, hc⟩
    | stop => cases hid
  · intro h0
    obtain ⟨result, hc⟩ := h0
    exact ⟨_, hc, rfl⟩

theorem mem_ids : id ∈ calls.filterMap PassCall.id? ↔ id ∈ visited calls ∨ id ∈ retirees calls := by
  rw [mem_retirees, visited, List.mem_map, List.mem_filterMap]
  constructor
  · intro h0
    obtain ⟨c, hc, hid⟩ := h0
    cases c with
    | process id' known result =>
        obtain rfl := Option.some.inj hid
        exact Or.inl ⟨(id', result), mem_visits.mpr ⟨known, hc⟩, rfl⟩
    | retire id' result =>
        obtain rfl := Option.some.inj hid
        exact Or.inr ⟨result, hc⟩
    | stop => cases hid
  · intro h0
    rcases h0 with ⟨v, hv, rfl⟩ | ⟨result, hc⟩
    · obtain ⟨known, hc⟩ := mem_visits.mp hv
      exact ⟨_, hc, rfl⟩
    · exact ⟨_, hc, rfl⟩

/-- What is given to the processor goes with the token known before. -/
theorem Ending.known_eq {result : Except CrawlError Outcome}
    (hend : Ending previous seeds horizon calls (some (.ok report)))
    (hc : .process id known result ∈ calls) : known = previous[id]? := by
  cases hend with
  | finished hseen hrem horphans houtcomes =>
      rcases List.mem_append.mp hc with hmem | hmem
      · obtain ⟨v, _, hv⟩ := List.mem_map.mp hmem
        cases hv
        rfl
      · obtain ⟨v, _, hv⟩ := List.mem_map.mp hmem
        cases hv

/-- Whatever a pass that succeeds retires has been deleted. -/
theorem Ending.retired_ok {result : Except CrawlError Outcome}
    (hend : Ending previous seeds horizon calls (some (.ok report)))
    (hc : .retire id result ∈ calls) : ∃ o, result = .ok o := by
  cases hend with
  | @finished done retired progress outcomes hseen hrem horphans houtcomes =>
      rcases List.mem_append.mp hc with hmem | hmem
      · obtain ⟨v, _, hv⟩ := List.mem_map.mp hmem
        cases hv
      · obtain ⟨v, hv, hcall⟩ := List.mem_map.mp hmem
        cases hcall
        have hresult : v.2 ∈ retired.map Prod.snd := List.mem_map_of_mem hv
        rw [houtcomes] at hresult
        obtain ⟨o, _, ho⟩ := List.mem_map.mp hresult
        exact ⟨o, ho.symm⟩

/-- Whatever is retired was known before. -/
theorem Ending.retiree_mem (hend : Ending previous seeds horizon calls (some (.ok report)))
    (hsilent : ∀ id o, PassCall.retire id (.ok o) ∈ calls → o.token? = none)
    (h : id ∈ retirees calls) : id ∈ previous := by
  obtain ⟨progress, _, _, horphans, _⟩ := hend.account hsilent
  rw [horphans] at h
  exact (mem_orphans.mp h).1

/-! ## The tokens of a report -/

variable {done : List Visit} {progress : Progress}

/-- An entry that came to no outcome with a token and is awaited keeps its token. -/
theorem Remembered.left (h : Remembered previous done progress)
    (hnone : ∀ token, ¬Tells done id token) (hawait : Awaited progress.report.deferred id) :
    progress.report.versions[id]? = previous[id]? := by
  cases hv : progress.report.versions[id]? with
  | none =>
      cases hp : previous[id]? with
      | none => rfl
      | some token =>
          have hsome := h.kept id hawait (by rw [hp]; rfl)
          rw [hv] at hsome
          cases hsome
  | some token =>
      rcases h.source id token hv with htells | ⟨hold, _⟩
      · exact absurd htells (hnone token)
      · exact hold.symm

/-- An entry that came to no outcome with a token and is not awaited has none. -/
theorem Remembered.gone (h : Remembered previous done progress)
    (hnone : ∀ token, ¬Tells done id token) (hfree : ¬Awaited progress.report.deferred id) :
    progress.report.versions[id]? = none := by
  cases hv : progress.report.versions[id]? with
  | none => rfl
  | some token =>
      rcases h.source id token hv with htells | ⟨_, hawait⟩
      · exact absurd htells (hnone token)
      · exact absurd hawait hfree

/-- An entry has the token of its outcome, unless it was known before and lies below one that has
to wait. -/
theorem Remembered.told_of (h : Remembered previous done progress)
    (honly : ∀ token, Tells done id token ↔ o.token? = some token)
    (hawait : Awaited progress.report.deferred id → Sheltered progress.report.deferred id) :
    progress.report.versions[id]? = o.token? ∨ (id ∈ previous ∧
      Sheltered progress.report.deferred id ∧ progress.report.versions[id]? = previous[id]?) := by
  cases hv : progress.report.versions[id]? with
  | none =>
      refine Or.inl ?_
      cases ho : o.token? with
      | none => rfl
      | some token =>
          have hsome := h.told id token ((honly token).mpr ho)
          rw [hv] at hsome
          cases hsome
  | some token =>
      rcases h.source id token hv with htells | ⟨hold, ha⟩
      · exact Or.inl ((honly token).mp htells).symm
      · have hmem : id ∈ previous :=
          Std.TreeMap.mem_iff_isSome_getElem?.mpr (by rw [hold]; rfl)
        exact Or.inr ⟨hmem, hawait ha, hold.symm⟩

/-! ## The fate of an entry -/

/-- What a pass that succeeds makes of an entry that had the token `known`: the token that the
report has for it, and the lines of the ledger about it. -/
inductive Fate (p : Processor (StateM σ)) (judge : ByteArray → Bool) (S : Snapshot) (fault : Prop)
    (calls : List PassCall) (deferred : List Deferral) (id : String) (known : Option String) :
    Option String → List (String × Option String) → Prop where
  /-- Processing came to an outcome. Its token is remembered, unless the entry was known before and
  lies below one that has to wait. -/
  | told {known' : Option String} {o : Outcome} (hc : .process id known (.ok o) ∈ calls)
      (ho : Reported p judge S fault (.process id known (.ok o)))
      (hknown : known' = o.token? ∨ (known.isSome ∧ Sheltered deferred id ∧ known' = known)) :
      Fate p judge S fault calls deferred id known known' o.lines
  /-- The entry has to wait, or nobody knows of it. -/
  | left (hwait : Awaited deferred id ∨ (known = none ∧ id ∉ visited calls)) :
      Fate p judge S fault calls deferred id known known []
  /-- The entry was known before and not reached. -/
  | retired (hknown : known.isSome) (hunvisited : id ∉ visited calls) :
      Fate p judge S fault calls deferred id known none [(id, none)]

/-- What is visited is visited once, so it comes to one result. -/
theorem result_unique (honce : (done.map Prod.fst).Nodup) {v w : Visit} (hv : v ∈ done)
    (hw : w ∈ done) (hid : v.1 = w.1) : v = w := List.inj_on_of_nodup_map honce hv hw hid

theorem silent_of_reported (hreported : ∀ c ∈ calls, Reported p judge S fault c) (id : String)
    (o : Outcome) (hc : PassCall.retire id (.ok o) ∈ calls) : o.token? = none := by
  obtain rfl : o = .delete id "no longer reachable from seeds" := hreported _ hc
  rfl

/-- A token that is told belongs to an outcome of the entry itself. -/
theorem Tells.owner {token : String} (h : Tells (visits calls) id token)
    (hproper : ∀ c ∈ calls, c.Proper) :
    ∃ o, ((id, .ok o) : Visit) ∈ visits calls ∧ o.token? = some token := by
  obtain ⟨⟨id', result⟩, hv, o, ho, hid, htoken⟩ := h
  obtain rfl : result = .ok o := ho
  obtain ⟨known, hc⟩ := mem_visits.mp hv
  have hown : o.id = id' := hproper _ hc
  obtain rfl : id' = id := hown.symm.trans hid
  exact ⟨o, hv, htoken⟩

/-- The tokens, the deferrals and the retired entries of a pass that succeeds, in terms of its
calls. -/
structure Reckoned (previous : VersionMap) (calls : List PassCall) (report : Report) : Prop where
  /-- The tokens of the report are those of the visits and of the entries that have to wait. -/
  tokens : ∃ progress : Progress, progress.report = report ∧
    Remembered previous (visits calls) progress
  /-- An entry that came to no outcome has to wait. -/
  waits : ∀ id e, ((id, .error e) : Visit) ∈ visits calls → ∃ d ∈ report.deferred, id = d.id
  /-- An entry that has to wait came to no outcome. -/
  waiting : ∀ d ∈ report.deferred, ∃ e, ((d.id, .error e) : Visit) ∈ visits calls

theorem Ending.reckoned (hend : Ending previous seeds horizon calls (some (.ok report)))
    (hsilent : ∀ id o, PassCall.retire id (.ok o) ∈ calls → o.token? = none) :
    Reckoned previous calls report := by
  obtain ⟨progress, hseen, hrem, _, hdeferred, hversions⟩ := hend.account hsilent
  refine ⟨⟨{ progress with report := report }, rfl, ?_⟩, ?_, ?_⟩
  · -- retiring entries has changed neither tokens nor deferrals
    exact
      { source := by simpa only [hdeferred, hversions] using hrem.source
        told := by simpa only [hversions] using hrem.told
        kept := by simpa only [hdeferred, hversions] using hrem.kept }
  · intro id e hv
    rcases hseen.settled _ hv with ⟨o, ho⟩ | ⟨d, hd⟩
    · cases ho
    · refine ⟨d, ?_, (deferral?_id hd).symm⟩
      rw [hdeferred, hseen.deferred]
      exact List.mem_filterMap.mpr ⟨_, hv, hd⟩
  · intro d hd
    rw [hdeferred, hseen.deferred] at hd
    obtain ⟨⟨id, result⟩, hv, hvd⟩ := List.mem_filterMap.mp hd
    obtain rfl : d.id = id := deferral?_id hvd
    cases result with
    | ok o => exact absurd rfl (not_ok_of_deferral? hvd)
    | error e => exact ⟨e, hv⟩

/-- No outcome was found for the entry. -/
def Unsettled (calls : List PassCall) (id : String) : Prop :=
  ∀ known o, PassCall.process id known (.ok o) ∉ calls

theorem Unsettled.not_tells (h : Unsettled calls id) (hproper : ∀ c ∈ calls, c.Proper)
    (token : String) : ¬Tells (visits calls) id token := by
  intro htells
  obtain ⟨o, hv, _⟩ := htells.owner hproper
  obtain ⟨known, hc⟩ := mem_visits.mp hv
  exact h known o hc

theorem unsettled_of_unvisited (h : id ∉ visited calls) : Unsettled calls id :=
  fun _ _ hc => h (mem_visited hc)

/-- An entry with an outcome has its token, unless the entry was known before and lies below one
that has to wait. -/
theorem Reckoned.token_of_outcome (h : Reckoned previous calls report)
    (honce : (visited calls).Nodup) (hproper : ∀ c ∈ calls, c.Proper)
    (hc : .process id known (.ok o) ∈ calls) :
    report.versions[id]? = o.token? ∨ (id ∈ previous ∧
      Sheltered report.deferred id ∧ report.versions[id]? = previous[id]?) := by
  obtain ⟨progress, rfl, hrem⟩ := h.tokens
  have hv : ((id, .ok o) : Visit) ∈ visits calls := mem_visits.mpr ⟨known, hc⟩
  refine hrem.told_of (fun token => ⟨fun htells => ?_, ?_⟩) ?_
  · obtain ⟨o', ho', htoken⟩ := htells.owner hproper
    obtain rfl : o' = o := by cases result_unique honce ho' hv rfl; rfl
    exact htoken
  · exact fun htoken => ⟨_, hv, o, rfl, hproper _ hc, htoken⟩
  · -- it does not have to wait itself
    intro h0
    rcases h0 with ⟨d, hd, rfl | hbelow⟩
    · obtain ⟨e, hmem⟩ := h.waiting d hd
      cases result_unique honce hmem hv rfl
    · exact ⟨d, hd, hbelow⟩

/-- An entry without an outcome that is awaited has the token it had. -/
theorem Reckoned.token_left (h : Reckoned previous calls report) (hproper : ∀ c ∈ calls, c.Proper)
    (hnone : Unsettled calls id) (hawait : Awaited report.deferred id) :
    report.versions[id]? = previous[id]? := by
  obtain ⟨progress, rfl, hrem⟩ := h.tokens
  exact hrem.left (hnone.not_tells hproper) hawait

/-- Any other entry without an outcome has none. -/
theorem Reckoned.token_gone (h : Reckoned previous calls report) (hproper : ∀ c ∈ calls, c.Proper)
    (hnone : Unsettled calls id) (hfree : ¬Awaited report.deferred id) :
    report.versions[id]? = none := by
  obtain ⟨progress, rfl, hrem⟩ := h.tokens
  exact hrem.gone (hnone.not_tells hproper) hfree

/-- The fate of an entry that was given to the processor. -/
theorem Ending.fate_visited (hend : Ending previous seeds horizon calls (some (.ok report)))
    (hreported : ∀ c ∈ calls, Reported p judge S fault c) (hreck : Reckoned previous calls report)
    {result : Except CrawlError Outcome} (hc : .process id known result ∈ calls) :
    Fate p judge S fault calls report.deferred id previous[id]? report.versions[id]?
      (linesOn id (calls.flatMap PassCall.lines)) := by
  have hproper : ∀ c ∈ calls, c.Proper := fun c hc => (hreported c hc).proper
  obtain rfl := hend.known_eq hc
  rw [linesOn_flatMap hproper hend.ids_nodup hc rfl]
  cases result with
  | ok o =>
      have htoken := hreck.token_of_outcome hend.once hproper hc
      exact .told hc (hreported _ hc) (htoken.imp_right
        (fun h => ⟨Std.TreeMap.mem_iff_isSome_getElem?.mp h.1, h.2⟩))
  | error e =>
      -- without an outcome the entry has to wait, or the pass would not have succeeded
      have hv : ((id, .error e) : Visit) ∈ visits calls := mem_visits.mpr ⟨_, hc⟩
      have hnone : Unsettled calls id := by
        intro known' o ho
        have hv' : ((id, .ok o) : Visit) ∈ visits calls := mem_visits.mpr ⟨known', ho⟩
        cases result_unique hend.once hv' hv rfl
      obtain ⟨d, hd, hid⟩ := hreck.waits id e hv
      have hawait : Awaited report.deferred id := ⟨d, hd, Or.inl hid⟩
      rw [hreck.token_left hproper hnone hawait]
      exact .left (Or.inl hawait)

/-- The fate of any other entry. -/
theorem Ending.fate_unvisited (hend : Ending previous seeds horizon calls (some (.ok report)))
    (hreported : ∀ c ∈ calls, Reported p judge S fault c) (hreck : Reckoned previous calls report)
    (hcovered : Covered previous seeds calls report) (hunvisited : id ∉ visited calls) :
    Fate p judge S fault calls report.deferred id previous[id]? report.versions[id]?
      (linesOn id (calls.flatMap PassCall.lines)) := by
  have hsilent := silent_of_reported hreported
  have hproper : ∀ c ∈ calls, c.Proper := fun c hc => (hreported c hc).proper
  have hnone : Unsettled calls id := unsettled_of_unvisited hunvisited
  -- an entry that has to wait itself has been visited
  have hbelow : Awaited report.deferred id → Sheltered report.deferred id := by
    intro h0
    rcases h0 with ⟨d, hd, rfl | hbelow⟩
    · obtain ⟨e, hv⟩ := hreck.waiting d hd
      exact absurd (List.mem_map_of_mem hv) hunvisited
    · exact ⟨d, hd, hbelow⟩
  by_cases hretired : id ∈ retirees calls
  · obtain ⟨result, hc⟩ := mem_retirees.mp hretired
    obtain ⟨o, rfl⟩ := hend.retired_ok hc
    obtain rfl : o = .delete id "no longer reachable from seeds" := hreported _ hc
    rw [linesOn_flatMap hproper hend.ids_nodup hc rfl,
      hreck.token_gone hproper hnone (fun h => (hcovered.apart id hretired).2 (hbelow h))]
    exact .retired (Std.TreeMap.mem_iff_isSome_getElem?.mp (hend.retiree_mem hsilent hretired))
      hunvisited
  · rw [linesOn_flatMap_of_not_mem hproper (fun h => (mem_ids.mp h).elim hunvisited hretired)]
    by_cases hawait : Awaited report.deferred id
    · rw [hreck.token_left hproper hnone hawait]
      exact .left (Or.inl hawait)
    · -- it would have been retired if it had been known
      have hunknown : previous[id]? = none := by
        refine Std.TreeMap.getElem?_eq_none (fun hmem => ?_)
        rcases hcovered.known id hmem with h | h | h
        · exact hunvisited h
        · exact hawait h.awaited
        · exact hretired h
      rw [hreck.token_gone hproper hnone hawait, hunknown]
      exact .left (Or.inr ⟨rfl, hunvisited⟩)

/-- **A pass that succeeds tells of an entry, leaves it, or retires it.** -/
theorem Ending.fate (hend : Ending previous seeds horizon calls (some (.ok report)))
    (hreported : ∀ c ∈ calls, Reported p judge S fault c) (id : String) :
    Fate p judge S fault calls report.deferred id previous[id]? report.versions[id]?
      (linesOn id (calls.flatMap PassCall.lines)) := by
  have hsilent := silent_of_reported hreported
  by_cases hvisited : id ∈ visited calls
  · obtain ⟨⟨_, result⟩, hv, rfl⟩ := List.mem_map.mp hvisited
    obtain ⟨known, hc⟩ := mem_visits.mp hv
    exact hend.fate_visited hreported (hend.reckoned hsilent) hc
  · exact hend.fate_unvisited hreported (hend.reckoned hsilent) (hend.covered hsilent) hvisited

end Harvest
