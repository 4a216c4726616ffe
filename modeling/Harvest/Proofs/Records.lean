import Mathlib.Algebra.GroupWithZero.Nat
import Harvest.Proofs.Deferral
import Harvest.Proofs.Tally
import Harvest.Proofs.Transcript

/-!
# The report and the records

Two books are kept of a pass. The receiver is given a record of every entry, by whoever processes or
retires it and at that moment; the report is put together by the pass from what comes back to it. A
pass that succeeds has the two books agree: there are as many records of each kind as the report
counts, of as many bytes, and no entry has two (`pass_records`).

They are compared one request at a time, once as what the receiver is given (`records_keeps`) and once
as what the report counts (`add_balanced`). The requests are the only thing that the two have in
common.
-/

namespace Harvest

variable {σ : Type} {p : Processor (StateM σ)} {previous : VersionMap} {seeds : List String}
  {horizon : Nat} {calls : List PassCall} {report : Report}

/-! ## What the receiver is given -/

/-- The record without its date. -/
def Activity.undated (a : Activity) : Activity := { a with timestamp := 0 }

/-- The record of what an entry came to, without its date. -/
def Visit.activity (v : Visit) : Activity := .ofResult 0 v.1 v.2

theorem undated_ofResult (now : Moment) (v : Visit) :
    (Activity.ofResult now v.1 v.2).undated = v.activity := by
  obtain ⟨id, result⟩ := v
  cases result with
  | ok o => rfl
  | error e => rfl

theorem activity_id (v : Visit) : v.activity.id = v.1 := by
  obtain ⟨id, result⟩ := v
  cases result with
  | ok o => rfl
  | error e => rfl

/-- What a request leaves a record of: whatever processing comes to, and what was retired. -/
def PassCall.recorded? : PassCall → Option Visit
  | .process id _ result => some (id, result)
  | .retire id (.ok o) => some (id, .ok o)
  | _ => none

/-- What the requests leave records of, in order. -/
def recorded (calls : List PassCall) : List Visit := calls.filterMap PassCall.recorded?

theorem recorded_snoc (calls : List PassCall) (c : PassCall) :
    recorded (calls ++ [c]) = recorded calls ++ c.recorded?.toList := by
  rw [recorded, recorded, List.filterMap_append, List.filterMap_cons]
  cases c.recorded? <;> rfl

theorem records_record (calls : List Call) (a : Activity) :
    records (calls ++ [.record a]) = records calls ++ [a] := List.filterMap_append

/-- Nothing is recorded until the record is. -/
theorem conduct_before (p : Processor (StateM σ)) (before : List Activity) :
    Conduct p.transcribed.unrecorded (Keeping (fun s => records s.2 = before)) (fun _ => True) :=
  conduct_written p (records · = before) (fun calls _ hc hs => (records_snoc hc calls).trans hs)

/-- The record that is written last. -/
theorem record_last (p : Processor (StateM σ)) (id : String) (result : Except CrawlError Outcome)
    (before : List Activity) :
    Ensures (fun s : σ × List Call => records s.2 = before)
      (do
        p.transcribed.sink.record (.ofResult (← p.transcribed.monitor.now) id result)
        return result)
      (fun result' s => result' = result ∧
        ∃ now, records s.2 = before ++ [.ofResult now id result]) := by
  refine ⟨fun s hs => ⟨rfl, (p.monitor.now.run s.1).1, ?_⟩⟩
  change records (s.2 ++ [.record _]) = _
  rw [records_record, hs]

/-- Processing adds one record to those before. -/
theorem process_records (p : Processor (StateM σ)) (id : String) (known : Option String)
    (before : List Activity) :
    Ensures (fun s => records s.2 = before) (p.transcribed.process id known)
      (fun result s => ∃ now, records s.2 = before ++ [.ofResult now id result]) := by
  refine process_of_decision (conduct_before p before) (fun result => ?_)
  refine (record_last p id result before).imp (fun s hs => ?_) (fun result' s hs => ?_)
  · cases result with
    | ok o => exact hs.1
    | error e => exact hs.1.1
  · obtain ⟨rfl, hrecord⟩ := hs
    exact hrecord

/-- Retiring an entry adds one record if it succeeds, and none if it fails. -/
theorem retire_records (p : Processor (StateM σ)) (id : String) (before : List Activity) :
    Ensures (fun s => records s.2 = before) (p.transcribed.retire id) (fun result s =>
      (∃ o, result = .ok o ∧ ∃ now, records s.2 = before ++ [.ofResult now id result]) ∨
        (∃ e, result = .error e ∧ records s.2 = before)) := by
  have hconduct := conduct_before p before
  have hdelete : Attempts (fun s => records s.2 = before)
      (p.transcribed.unrecorded.delete id "no longer reachable from seeds")
      (fun _ s => records s.2 = before) (Mishap (Keeping _) _ id) :=
    (judged_spec hconduct (hconduct.delete id "")).bind (fun _ => .pure (fun _ hs => hs))
  rw [delete_unrecorded] at hdelete
  refine Ensures.bind hdelete (fun result => ?_)
  cases result with
  | error e => exact Ensures.pure (fun _ hs => Or.inr ⟨e, rfl, hs.1.1⟩)
  | ok o =>
      refine (record_last p id (.ok o) before).imp (fun _ hs => hs) (fun result s hs => ?_)
      obtain ⟨rfl, now, hrecord⟩ := hs
      exact Or.inl ⟨o, rfl, now, hrecord⟩

/-- **The records are those of the requests**, one for each that leaves one, in order. -/
def Booked (requests : List PassCall) (s : σ × List Call) : Prop :=
  (records s.2).map Activity.undated = (recorded requests).map Visit.activity

theorem Booked.record {requests : List PassCall} {s t : σ × List Call} (h : Booked requests s)
    {c : PassCall} {v : Visit} (hc : c.recorded? = some v) {now : Moment}
    (hrecord : records t.2 = records s.2 ++ [.ofResult now v.1 v.2]) :
    Booked (requests ++ [c]) t := by
  unfold Booked
  rw [hrecord, recorded_snoc, hc, List.map_append, List.map_append, h]
  exact congrArg (List.append _) (congrArg (fun a => [a]) (undated_ofResult now v))

theorem Booked.silent {requests : List PassCall} {s t : σ × List Call} (h : Booked requests s)
    {c : PassCall} (hc : c.recorded? = none) (hsame : records t.2 = records s.2) :
    Booked (requests ++ [c]) t := by
  unfold Booked
  rw [hsame, recorded_snoc, hc, h]
  exact congrArg (List.map _) (List.append_nil _).symm

/-- **Every request keeps the records in step.** -/
theorem records_keeps (p : Processor (StateM σ)) (schedule : Schedule) (previous : VersionMap) :
    Keeps (p.transcribed.pass schedule) previous Booked where
  process := by
    intro requests id
    refine .from_each (fun s hs => Ensures.imp (process_records p id previous[id]? (records s.2))
      (fun t ht => ht ▸ rfl) (fun result t ht => ?_))
    obtain ⟨now, hrecord⟩ := ht
    exact hs.record (v := (id, result)) rfl hrecord
  retire := by
    intro requests id
    refine .from_each (fun s hs => Ensures.imp (retire_records p id (records s.2))
      (fun t ht => ht ▸ rfl) (fun result t ht => ?_))
    rcases ht with ⟨o, rfl, now, hrecord⟩ | ⟨e, rfl, hsame⟩
    · exact hs.record (v := (id, .ok o)) rfl hrecord
    · exact hs.silent rfl hsame
  isCancelled := by
    refine fun requests => .from_each (fun s hs => ⟨fun t ht => ?_⟩)
    subst ht
    change Booked (if (p.monitor.isCancelled.run t.1).1 = true then _ else _) (_, t.2)
    split
    · exact hs.silent rfl rfl
    · exact hs
  warn := fun _ _ => ⟨fun _ hs => hs⟩

/-! ## What the report counts -/

/-- How many entries a report counts that leave a record of the kind. A failure that is not confined
to one entry ends the pass, and then there is no report. -/
def Report.tally (r : Report) : ActivityKind → Nat
  | .ingest => r.ingested
  | .delete => r.deleted
  | .skip => r.skipped + r.unchanged
  | .deferred => r.deferred.length
  | .failed => 0

/-- The report counts what the records say. -/
structure Balanced (written : List Activity) (r : Report) : Prop where
  tally : ∀ kind, (written.map Activity.kind).count kind = r.tally kind
  bytes : (written.map Activity.bytes).sum = r.bytes

/-- Dates are not counted. -/
theorem Balanced.dated {written : List Activity} {r : Report}
    (h : Balanced (written.map Activity.undated) r) : Balanced written r := by
  obtain ⟨htally, hbytes⟩ := h
  rw [List.map_map] at hbytes
  simp only [List.map_map] at htally
  exact ⟨htally, hbytes⟩

/-- One more record, which the report counts. -/
theorem Balanced.snoc {written : List Activity} {r r' : Report} (h : Balanced written r)
    {a : Activity} (htally : ∀ kind, r'.tally kind = r.tally kind + if a.kind = kind then 1 else 0)
    (hbytes : r'.bytes = r.bytes + a.bytes) : Balanced (written ++ [a]) r' where
  tally := by
    intro kind
    rw [List.map_append, List.count_append, h.tally, htally, List.map_singleton,
      List.count_singleton]
    simp only [beq_iff_eq]
  bytes := by
    rw [List.map_append, List.sum_append, h.bytes, hbytes, List.map_singleton, List.sum_singleton]

/-- Tokens are not counted. -/
theorem Balanced.remember {written : List Activity} {r : Report} (h : Balanced written r)
    (id : String) (token : Option String) : Balanced written (r.remember id token) := by
  cases token with
  | none => exact h
  | some token => exact ⟨fun kind => (h.tally kind).trans (by cases kind <;> rfl), h.bytes⟩

theorem Balanced.keep : ∀ {written : List Activity} {r : Report} (_ : Balanced written r)
    (entries : List (String × String)), Balanced written (entries.foldl Report.keep r)
  | _, _, h, [] => h
  | _, _, h, entry :: entries => (h.remember entry.1 (some entry.2)).keep entries

theorem Balanced.record {written : List Activity} {r : Report} (h : Balanced written r)
    (id : String) (o : Outcome) :
    Balanced (written ++ [.ofResult 0 id (.ok o)]) (r.record o) := by
  refine Balanced.remember (h.snoc (fun kind => ?_) ?_) o.id o.token?
  · cases o with
    | ingest id token bytes => cases kind <;> rfl
    | delete id reason => cases kind <;> rfl
    | skip id reason token =>
        cases reason with
        | container children => cases kind <;> first | rfl | exact Nat.add_right_comm _ _ _
        | unchanged => cases kind <;> rfl
  · cases o with
    | ingest id token bytes => rfl
    | delete id reason => rfl
    | skip id reason token => cases reason <;> rfl

/-- An entry that has to wait is counted once; what is kept below it is not counted. -/
theorem Balanced.postpone {written : List Activity} {r : Report} (h : Balanced written r)
    (operation : String) (d : Deferral) :
    Balanced (written ++ [.ofResult 0 d.id (.error (.transient operation d.message d.window))])
      (r.postpone previous d) := by
  refine ((h.remember d.id previous[d.id]?).keep (previous.below d.id)).snoc (fun kind => ?_) rfl
  cases kind with
  | deferred => exact List.length_append
  | ingest => rfl
  | delete => rfl
  | skip => rfl
  | failed => rfl

/-- The request does not end the pass. -/
def PassCall.Passes : PassCall → Prop
  | .process _ _ (.error e) => e.isRetryable = true
  | _ => True

/-- **What the report counts of a request is what the request leaves a record of.** -/
theorem add_balanced {written : List Activity} {r : Report} (h : Balanced written r) {c : PassCall}
    (hpasses : c.Passes) :
    Balanced (written ++ c.recorded?.toList.map Visit.activity) (r.add previous c) := by
  cases c with
  | process id known result =>
      cases result with
      | ok o => exact h.record id o
      | error e =>
          cases e with
          | transient operation message window => exact h.postpone operation ⟨id, message, window⟩
          | absent id reason => cases hpasses
          | cancelled => cases hpasses
          | fatal operation source => cases hpasses
          | config message => cases hpasses
  | retire id result =>
      cases result with
      | ok o => exact h.record id o
      | error e => exact (List.append_nil written).symm ▸ h
  | stop => exact (List.append_nil written).symm ▸ h

theorem foldl_add_balanced : ∀ {written : List Activity} {r : Report} (_ : Balanced written r)
    (calls : List PassCall), (∀ c ∈ calls, c.Passes) →
      Balanced (written ++ (recorded calls).map Visit.activity)
        (calls.foldl (Report.add previous) r)
  | written, _, h, [], _ => (List.append_nil written).symm ▸ h
  | written, r, h, c :: calls, hpasses => by
      have hone : Balanced _ (r.add previous c) := add_balanced h (hpasses c List.mem_cons_self)
      have hrest := foldl_add_balanced hone calls
        (fun c' hc' => hpasses c' (List.mem_cons_of_mem c hc'))
      rw [List.append_assoc, ← List.map_append] at hrest
      have hsplit : recorded (c :: calls) = c.recorded?.toList ++ recorded calls := by
        unfold recorded
        rw [List.filterMap_cons]
        cases c.recorded? <;> rfl
      rw [hsplit]
      exact hrest

/-! ## The whole pass -/

/-- None of the requests of a pass that succeeds has ended it. -/
theorem Ending.passes (hend : Ending previous seeds horizon calls (some (.ok report))) :
    ∀ c ∈ calls, c.Passes := by
  cases hend with
  | @finished done retired progress outcomes hseen hrem horphans houtcomes =>
      refine List.forall_mem_append.mpr ⟨?_, ?_⟩
      · refine List.forall_mem_map.mpr (fun v hv => ?_)
        obtain ⟨id, result⟩ := v
        cases result with
        | ok o => trivial
        | error e =>
            rcases hseen.settled _ hv with ⟨o, ho⟩ | ⟨d, hd⟩
            · cases ho
            · exact (isSome_deferral? rfl).symm.trans (congrArg Option.isSome hd)
      · exact List.forall_mem_map.mpr (fun v _ => trivial)

/-- It leaves a record of everything that it visits, and then of everything that it retires. -/
theorem Ending.recorded_ids (hend : Ending previous seeds horizon calls (some (.ok report))) :
    (recorded calls).map Prod.fst = visited calls ++ retirees calls := by
  cases hend with
  | @finished done retired progress outcomes hseen hrem horphans houtcomes =>
      have hdone : recorded (done.map (processed previous)) = done := by
        rw [recorded, List.filterMap_map]
        exact List.filterMap_some
      have hretired : recorded (retired.map retirement) = retired := by
        rw [recorded, List.filterMap_map]
        refine (List.filterMap_congr (fun v hv => ?_)).trans List.filterMap_some
        have hresult : v.2 ∈ outcomes.map Except.ok := houtcomes ▸ List.mem_map_of_mem hv
        obtain ⟨o, _, ho⟩ := List.mem_map.mp hresult
        obtain ⟨id, result⟩ := v
        obtain rfl : .ok o = result := ho
        rfl
      rw [visited, visits_passCalls, retirees_passCalls, passCalls, recorded, List.filterMap_append]
      change (recorded _ ++ recorded _).map Prod.fst = _
      rw [hdone, hretired, List.map_append]

/-- No entry is both visited and retired, and none is either of them twice. -/
theorem Ending.recorded_once (hend : Ending previous seeds horizon calls (some (.ok report)))
    (hsilent : ∀ id o, PassCall.retire id (.ok o) ∈ calls → o.token? = none) :
    (visited calls ++ retirees calls).Nodup := by
  have hcovered := hend.covered hsilent
  refine List.nodup_append.mpr ⟨hend.once, hcovered.once, fun id hid id' hid' heq => ?_⟩
  exact (hcovered.apart id' hid').1 (heq ▸ hid)

/-- **The report agrees with the records.** Let the calls of a pass be written down, and what it asks
for. That changes nothing; and if the pass succeeds, the receiver has been given one record of each
entry that was visited or retired, and of no other, as many of each kind as the report counts, of as
many bytes. -/
theorem pass_records (p : Processor (StateM σ)) (schedule : Schedule) (horizon : Nat)
    (seeds : List String) (previous : VersionMap) (s : σ) :
    let r := ((p.transcribed.pass schedule).traced.run horizon seeds previous).run ((s, []), [])
    ((p.pass schedule).run horizon seeds previous).run s = (r.1, r.2.1.1) ∧
      ∀ report, r.1 = some (.ok report) →
        let written := records r.2.1.2
        (∀ kind, (written.map Activity.kind).count kind = report.tally kind) ∧
          (written.map Activity.bytes).sum = report.bytes ∧
          written.length = (visited r.2.2).length + (retirees r.2.2).length ∧
          written.map Activity.id = visited r.2.2 ++ retirees r.2.2 ∧
          (written.map Activity.id).Nodup := by
  intro r
  have hwatched := ((transcribed_mimics p).follows schedule).run horizon seeds previous
  have htraced := (traced_follows (p.transcribed.pass schedule)).run horizon seeds previous
  constructor
  · rw [hwatched.run_eq (s, []), htraced.run_eq ((s, []), [])]
  · intro report hreport written
    obtain ⟨hend, hbooked⟩ := run_traced (records_keeps p schedule previous) horizon seeds
      (s := (s, [])) rfl
    obtain ⟨_, hsound⟩ := run_traced_ending
      (pass_minds (conduct_trivial p.transcribed) schedule previous) horizon seeds (s := (s, []))
      trivial
    rw [show _ = some (Except.ok report) from hreport] at hend
    -- apart from their dates, the records are those of the requests
    have hundated : written.map Activity.undated = (recorded r.2.2).map Visit.activity := hbooked
    have hbalanced : Balanced written report := by
      have hstart : Balanced [] .empty := ⟨fun kind => by cases kind <;> rfl, rfl⟩
      have hadded : Balanced _ (r.2.2.foldl (Report.add previous) .empty) :=
        foldl_add_balanced hstart r.2.2 hend.passes
      rw [← run_traced_report _ horizon seeds previous (s, []) report hreport] at hadded
      exact Balanced.dated (hundated ▸ hadded)
    have hids : written.map Activity.id = visited r.2.2 ++ retirees r.2.2 := by
      have hsame := congrArg (List.map Activity.id) hundated
      rw [List.map_map, List.map_map] at hsame
      exact hsame.trans ((List.map_congr_left (fun v _ => activity_id v)).trans hend.recorded_ids)
    refine ⟨hbalanced.tally, hbalanced.bytes, ?_, hids, ?_⟩
    · rw [← List.length_map (f := Activity.id), hids, List.length_append]
    · rw [hids]
      exact hend.recorded_once (silent_of_sound hsound)

/-- The stalled store with a leaf in it, of seven bytes. -/
def leafyCrawl : Processor (StateM Unit) :=
  { stalledCrawl with
    store := { stalledCrawl.store with isContainer := fun id => pure (id != "/leaf") }
    sink := { stalledCrawl.sink with ingest := fun _ _ => pure 7 } }

/-- A pass over that store. -/
def leafyRun : Option (Except CrawlError Report) × ((Unit × List Call) × List PassCall) :=
  ((leafyCrawl.transcribed.pass .inOrder).traced.run 3 ["/", "/leaf"] stalledKnown).run
    (((), []), [])

/-- One container is entered and one waits, the leaf is handed over, and an entry is retired. -/
theorem pass_records_leafy : ∃ report, leafyRun.1 = some (.ok report) ∧
    report.skipped + report.unchanged = 1 ∧ report.deferred.length = 1 ∧ report.ingested = 1 ∧
    report.deleted = 1 ∧ report.bytes = 7 ∧
    visited leafyRun.2.2 ++ retirees leafyRun.2.2 = ["/", "/leaf", "/sub", "/subway"] := by
  have hok : (leafyRun.1.bind Except.toOption).isSome = true := by decide +kernel
  have hwritten : (records leafyRun.2.1.2).map (fun a => (a.id, a.kind, a.bytes)) =
      [("/", .skip, 0), ("/leaf", .ingest, 7), ("/sub", .deferred, 0), ("/subway", .delete, 0)] := by
    decide +kernel
  obtain ⟨report, hreport⟩ := Option.isSome_iff_exists.mp hok
  have hr := ok_of_toOption hreport
  obtain ⟨htally, hbytes, _, hids, _⟩ :=
    (pass_records leafyCrawl .inOrder 3 ["/", "/leaf"] stalledKnown ()).2 report hr
  have hkinds := congrArg (List.map (fun a => a.2.1)) hwritten
  have hsizes := congrArg (List.map (fun a => a.2.2)) hwritten
  have hnames := congrArg (List.map (fun a => a.1)) hwritten
  rw [List.map_map] at hkinds hsizes hnames
  have htally' : ∀ kind, [.skip, .ingest, .deferred, .delete].count kind = report.tally kind :=
    fun kind => (congrArg (List.count kind) hkinds).symm.trans (htally kind)
  exact ⟨report, hr, (htally' .skip).symm, (htally' .deferred).symm, (htally' .ingest).symm,
    (htally' .delete).symm, hbytes.symm.trans (congrArg List.sum hsizes), hids.symm.trans hnames⟩

end Harvest
