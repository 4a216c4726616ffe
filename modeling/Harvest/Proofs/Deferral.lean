import Harvest.Proofs.Coverage

/-!
# Entries that have to wait

Deferring an entry loses nothing below it: what the previous pass knew there is not retired, and
keeps its token unless this pass has come to an outcome about it. Nothing else is protected. An
entry whose identifier merely goes on from that of a deferred one lies beside it, and goes the way
of all entries that were not reached.
-/

namespace Harvest

variable {σ : Type} {p : Processor (StateM σ)} {previous : VersionMap} {seeds : List String}
  {inv : σ → Prop} {calls : List PassCall} {horizon : Nat} {report : Report} {id token : String}

/-- A deferred entry is one that was visited. -/
theorem visited_of_deferral {done : List Visit} {d : Deferral} (h : d ∈ done.filterMap deferral?) :
    d.id ∈ done.map Prod.fst := by
  obtain ⟨v, hv, hd⟩ := List.mem_filterMap.mp h
  rw [deferral?_id hd]
  exact List.mem_map_of_mem hv

/-- What is known from before and awaited is not retired. -/
theorem Ending.not_retired (hend : Ending previous seeds horizon calls (some (.ok report)))
    (hsound : ∀ c ∈ calls, Sound p inv c) (hknown : id ∈ previous)
    (hawait : Awaited report.deferred id) : id ∉ retirees calls := by
  obtain ⟨progress, hseen, _, horphans, hdeferred, _⟩ := hend.account (silent_of_sound hsound)
  rw [horphans, mem_orphans]
  intro h0
  obtain ⟨_, hunseen⟩ := h0
  refine hunseen ((hseen.seen id).mpr ?_)
  -- what is awaited has been seen, whether it was visited itself or is sheltered
  obtain ⟨d, hd, hcase⟩ := hawait
  rw [hdeferred] at hd
  rcases hcase with rfl | hbelow
  · rw [hseen.deferred] at hd
    exact Or.inl (List.mem_append_left _ (visited_of_deferral hd))
  · exact Or.inr ⟨hknown, d, hd, hbelow⟩

/-- What is known from before and awaited keeps its token, if nothing new was found out about it. -/
theorem Ending.keeps_token (hend : Ending previous seeds horizon calls (some (.ok report)))
    (hsound : ∀ c ∈ calls, Sound p inv c) (hknown : previous[id]? = some token)
    (hawait : Awaited report.deferred id)
    (hnone : ∀ known o, .process id known (.ok o) ∉ calls) : report.versions[id]? = some token := by
  obtain ⟨progress, _, hrem, _, hdeferred, hversions⟩ := hend.account (silent_of_sound hsound)
  rw [hdeferred] at hawait
  rw [hversions]
  have hsome := hrem.kept id hawait (by rw [hknown]; rfl)
  obtain ⟨token', htoken⟩ := Option.isSome_iff_exists.mp hsome
  rcases hrem.source id token' htoken with ⟨v, hv, o, ho, hid, _⟩ | ⟨hold, _⟩
  · -- the token would be that of an outcome of this very entry
    obtain ⟨known, hc⟩ := mem_visits.mp hv
    have hsame : v.1 = id := ((hsound _ hc o ho).1).symm.trans hid
    rw [hsame, ho] at hc
    exact absurd hc (hnone known o)
  · rw [htoken, ← hold, hknown]

/-- **Deferring an entry loses nothing below it.** When a pass succeeds, an entry that was known
before and was deferred, or lies below one that was, is not retired, and without an outcome of its
own it keeps its token. All other entries that were known before are retired unless they were
visited. -/
theorem pass_keeps_awaited (p : Processor (StateM σ)) (schedule : Schedule) (horizon : Nat)
    (seeds : List String) (previous : VersionMap) (s : σ) (report : Report) :
    let r := ((p.pass schedule).traced.run horizon seeds previous).run (s, [])
    r.1 = some (.ok report) →
      (∀ d ∈ report.deferred, ∀ id token, previous[id]? = some token →
        id = d.id ∨ Path.below d.id id = true →
          id ∉ retirees r.2.2 ∧ ((∀ known o, .process id known (.ok o) ∉ r.2.2) →
            report.versions[id]? = some token)) ∧
      ∀ id ∈ previous, id ∉ visited r.2.2 → (∀ d ∈ report.deferred, Path.below d.id id = false) →
        id ∈ retirees r.2.2 := by
  intro r hreport
  obtain ⟨hend, hsound⟩ := run_traced_ending (pass_minds (conduct_trivial p) schedule previous)
    horizon seeds (s := s) trivial
  rw [hreport] at hend
  constructor
  · intro d hd id token hknown hcase
    have hmem : id ∈ previous :=
      Std.TreeMap.mem_iff_isSome_getElem?.mpr (by rw [hknown]; rfl)
    exact ⟨hend.not_retired hsound hmem ⟨d, hd, hcase⟩,
      hend.keeps_token hsound hknown ⟨d, hd, hcase⟩⟩
  · intro id hmem hvisited hbeside
    rcases (hend.covered (silent_of_sound hsound)).known id hmem with h | ⟨d, hd, hbelow⟩ | h
    · exact absurd h hvisited
    · rw [hbeside d hd] at hbelow
      cases hbelow
    · exact h

/-- A processor whose store stalls on listing `/sub`, the only child of everything else. -/
def stalledCrawl : Processor (StateM Unit) :=
  { ringCrawl with
    store :=
      { ringCrawl.store with
        children := fun id =>
          if id = "/sub" then throw (.of (.system .timedOut "stalled"))
          else pure (.ofList ["/sub"]) } }

/-- What is known from before of the stalled store. -/
def stalledKnown : VersionMap :=
  .ofList [("/", "t"), ("/sub", "u"), ("/sub/a", "v"), ("/subway", "w")]

/-- A pass over the stalled store. -/
def stalledRun : Option (Except CrawlError Report) × (Unit × List PassCall) :=
  ((stalledCrawl.pass .inOrder).traced.run 3 ["/"] stalledKnown).run ((), [])

/-- What lies below `/sub` waits with it, and `/subway` does not. -/
theorem pass_keeps_awaited_stalled : ∃ report, stalledRun.1 = some (.ok report) ∧
    "/sub/a" ∉ retirees stalledRun.2.2 ∧ report.versions["/sub/a"]? = some "v" ∧
    "/subway" ∈ retirees stalledRun.2.2 := by
  have hok : (stalledRun.1.bind Except.toOption).map (fun r => r.deferred.map Deferral.id) =
      some ["/sub"] := by decide +kernel
  have hvisited : visited stalledRun.2.2 = ["/", "/sub"] := by decide +kernel
  cases hr : stalledRun.1 with
  | none => rw [hr] at hok; cases hok
  | some result =>
      cases result with
      | error e => rw [hr] at hok; cases hok
      | ok report =>
          rw [hr] at hok
          have hids : report.deferred.map Deferral.id = ["/sub"] := Option.some.inj hok
          obtain ⟨hkept, hothers⟩ :=
            pass_keeps_awaited stalledCrawl .inOrder 3 ["/"] stalledKnown () report hr
          have hsub : ∃ d ∈ report.deferred, d.id = "/sub" :=
            List.mem_map.mp (hids ▸ List.mem_singleton_self "/sub")
          obtain ⟨d, hd, hid⟩ := hsub
          obtain ⟨hlives, htoken⟩ := hkept d hd "/sub/a" "v" (by decide +kernel)
            (Or.inr (by rw [hid]; decide +kernel))
          refine ⟨report, rfl, hlives, htoken ?_, hothers "/subway" (by decide +kernel) ?_ ?_⟩
          · intro known o hc
            have hmem : "/sub/a" ∈ visited stalledRun.2.2 := mem_visited hc
            rw [hvisited] at hmem
            exact absurd hmem (by decide)
          · exact fun hmem => absurd (hvisited ▸ hmem : "/subway" ∈ ["/", "/sub"]) (by decide)
          · intro d' hd'
            have hid' : d'.id ∈ report.deferred.map Deferral.id := List.mem_map_of_mem hd'
            rw [hids, List.mem_singleton] at hid'
            rw [hid']
            decide +kernel

end Harvest
