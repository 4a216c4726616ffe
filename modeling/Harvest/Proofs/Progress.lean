import Std.Data.TreeSet.Lemmas
import Harvest.Crawl.Pass
import Harvest.Proofs.Below

/-!
# What a pass knows of its identifiers

The set of seen identifiers grows in three places: with the seeds, with the children of containers,
and with what the previous pass knew below an entry that has to wait. `Accounted` says what the set
is at any moment: the visited, the pending, and the sheltered, which are neither. Everything that is
said later about which identifiers are visited, kept or retired is read off it.

`Remembered` says where the version tokens of the report come from. A token is that of an outcome,
or it was taken over from the previous pass for an identifier that has to wait. Which of the two it
is when an identifier has both depends on the order of the visits, and is left open.

Both are kept by every single visit (`absorb_accounted`, `absorb_remembered`), in whatever order the
visits of a level are taken in.
-/

namespace Harvest

variable {previous : VersionMap} {seeds : List String} {seen : Std.TreeSet String}
  {p p' : Progress} {d : Deferral} {o : Outcome} {v : Visit} {id key token : String}

/-! ## Looking into sets and maps -/

theorem mem_seen_insert : key ∈ seen.insert id ↔ key = id ∨ key ∈ seen := by
  rw [Std.TreeSet.mem_insert, Std.LawfulEqCmp.compare_eq_iff_eq]
  exact or_congr_left eq_comm

theorem remember_versions (r : Report) (t : Option String) :
    (r.remember id t).versions[key]? =
      if key = id then t.or r.versions[key]? else r.versions[key]? := by
  cases t with
  | none => simp [Report.remember]
  | some t =>
      simp only [Report.remember, Std.TreeMap.getElem?_insert,
        Std.LawfulEqCmp.compare_eq_iff_eq, Option.some_or, eq_comm (a := id)]

theorem remember_deferred (r : Report) (t : Option String) :
    (r.remember id t).deferred = r.deferred := by cases t <;> rfl

theorem count_deferred (r : Report) : (r.count o).deferred = r.deferred := by
  unfold Report.count; split <;> rfl

theorem count_versions (r : Report) : (r.count o).versions = r.versions := by
  unfold Report.count; split <;> rfl

theorem record_deferred (r : Report) : (r.record o).deferred = r.deferred := by
  rw [Report.record, remember_deferred, count_deferred]

theorem record_versions (r : Report) :
    (r.record o).versions[key]? =
      if key = o.id then o.token?.or r.versions[key]? else r.versions[key]? := by
  rw [Report.record, remember_versions, count_versions]

/-! ## Newcomers -/

theorem mem_newcomers_seen : ∀ {ids : List String} {seen : Std.TreeSet String},
    id ∈ (newcomers seen ids).2 ↔ id ∈ seen ∨ id ∈ ids
  | [], _ => by simp [newcomers]
  | a :: ids, seen => by
      rw [newcomers, List.mem_cons]
      split
      · rename_i ha
        rw [mem_newcomers_seen]
        constructor
        · intro h0
          rcases h0 with h | h
          · exact Or.inl h
          · exact Or.inr (Or.inr h)
        · intro h0
          rcases h0 with h | rfl | h
          · exact Or.inl h
          · exact Or.inl (Std.TreeSet.contains_iff_mem.mp ha)
          · exact Or.inr h
      · rw [mem_newcomers_seen, mem_seen_insert]
        exact or_assoc.trans or_left_comm

theorem mem_newcomers : ∀ {ids : List String} {seen : Std.TreeSet String},
    id ∈ (newcomers seen ids).1 ↔ id ∈ ids ∧ id ∉ seen
  | [], _ => by simp [newcomers]
  | a :: ids, seen => by
      rw [newcomers]
      split
      · rename_i ha
        have ha : a ∈ seen := Std.TreeSet.contains_iff_mem.mp ha
        rw [mem_newcomers, List.mem_cons]
        constructor
        · intro h0
          obtain ⟨h, hseen⟩ := h0
          exact ⟨Or.inr h, hseen⟩
        · intro h0
          rcases h0 with ⟨rfl | h, hseen⟩
          · exact absurd ha hseen
          · exact ⟨h, hseen⟩
      · rename_i ha
        have ha : a ∉ seen := fun h => ha (Std.TreeSet.contains_iff_mem.mpr h)
        rw [List.mem_cons, mem_newcomers, mem_seen_insert, List.mem_cons]
        constructor
        · intro h0
          rcases h0 with rfl | ⟨h, hseen⟩
          · exact ⟨Or.inl rfl, ha⟩
          · exact ⟨Or.inr h, fun h' => hseen (Or.inr h')⟩
        · intro h0
          rcases h0 with ⟨rfl | h, hseen⟩
          · exact Or.inl rfl
          · by_cases heq : id = a
            · exact Or.inl heq
            · exact Or.inr ⟨h, fun h' => h'.elim heq hseen⟩

theorem nodup_newcomers : ∀ (ids : List String) (seen : Std.TreeSet String),
    (newcomers seen ids).1.Nodup
  | [], _ => List.nodup_nil
  | a :: ids, seen => by
      rw [newcomers]
      split
      · exact nodup_newcomers ids seen
      · refine List.nodup_cons.mpr ⟨?_, nodup_newcomers ids _⟩
        rw [mem_newcomers, mem_seen_insert]
        exact fun h => h.2 (Or.inl rfl)

/-! ## One visit -/

/-- What a visit leaves to a later pass. -/
def deferral? : Visit → Option Deferral
  | (id, .error (.transient _ message window)) => some ⟨id, message, window⟩
  | _ => none

theorem deferral?_id (h : deferral? v = some d) : d.id = v.1 := by
  unfold deferral? at h
  split at h
  · obtain rfl := Option.some.inj h
    rfl
  · cases h

/-- A visit that fails is put off exactly if it may be repeated. -/
theorem isSome_deferral? {e : CrawlError} (he : v.2 = .error e) :
    (deferral? v).isSome = e.isRetryable := by
  obtain ⟨id, result⟩ := v
  obtain rfl : result = .error e := he
  cases e with
  | transient operation message window => rfl
  | absent id reason => rfl
  | cancelled => rfl
  | fatal operation source => rfl
  | config message => rfl

theorem not_ok_of_deferral? (h : deferral? v = some d) : v.2 ≠ .ok o := by
  unfold deferral? at h
  split at h
  · intro hok
    cases hok
  · cases h

/-- **How a visit changes the progress.** It leads to an outcome, or it leaves its entry to a later
pass. -/
theorem absorb_ok (h : p.absorb previous v = .ok p') :
    (∃ o, v.2 = .ok o ∧ p' = p.reach o) ∨
      (∃ d, deferral? v = some d ∧ p' = p.postpone previous d) := by
  unfold Progress.absorb at h
  split at h
  · exact Or.inl ⟨_, rfl, (Except.ok.inj h).symm⟩
  · exact Or.inr ⟨_, rfl, (Except.ok.inj h).symm⟩
  · cases h

/-- A visit that ends the pass does so by a failure that cannot wait. -/
theorem absorb_error {e : CrawlError} (h : p.absorb previous v = .error e) :
    v.2 = .error e ∧ deferral? v = none := by
  unfold Progress.absorb at h
  split at h
  · cases h
  · cases h
  · rename_i he
    obtain rfl := Except.error.inj h
    exact ⟨rfl, by unfold deferral?; split <;> simp_all⟩

theorem keep_deferred : ∀ (entries : List (String × String)) (p : Progress),
    (entries.foldl Progress.keep p).report.deferred = p.report.deferred
  | [], _ => rfl
  | _ :: entries, p => (keep_deferred entries _).trans (remember_deferred p.report _)

theorem keep_next : ∀ (entries : List (String × String)) (p : Progress),
    (entries.foldl Progress.keep p).next = p.next
  | [], _ => rfl
  | _ :: entries, _ => keep_next entries _

theorem mem_keep_seen : ∀ {entries : List (String × String)} {p : Progress},
    key ∈ (entries.foldl Progress.keep p).seen ↔ key ∈ p.seen ∨ key ∈ entries.map Prod.fst
  | [], _ => by simp
  | e :: entries, p => by
      rw [List.foldl_cons, mem_keep_seen, List.map_cons, List.mem_cons]
      change key ∈ p.seen.insert e.1 ∨ _ ↔ _
      rw [mem_seen_insert]
      exact or_assoc.trans or_left_comm

/-- Entries of the previous pass are kept with the token they had. -/
theorem keep_versions : ∀ {entries : List (String × String)} {p : Progress},
    (∀ e ∈ entries, previous[e.1]? = some e.2) →
      (entries.foldl Progress.keep p).report.versions[key]? =
        if key ∈ entries.map Prod.fst then previous[key]? else p.report.versions[key]?
  | [], _, _ => by simp
  | e :: entries, p, h => by
      have he : previous[e.1]? = some e.2 := h e List.mem_cons_self
      have hkept : (p.keep e).report.versions[key]? =
          if key = e.1 then previous[key]? else p.report.versions[key]? := by
        refine (remember_versions p.report (some e.2)).trans ?_
        by_cases hk : key = e.1
        · rw [if_pos hk, if_pos hk, hk, he, Option.some_or]
        · rw [if_neg hk, if_neg hk]
      rw [List.foldl_cons, keep_versions (fun e' h' => h e' (List.mem_cons_of_mem _ h')), hkept,
        List.map_cons]
      by_cases hk : key = e.1
      · simp [hk]
      · have hcons : key ∈ e.1 :: entries.map Prod.fst ↔ key ∈ entries.map Prod.fst :=
          List.mem_cons.trans (or_iff_right hk)
        simp only [if_neg hk, hcons]

theorem mem_below_keys :
    key ∈ (previous.below id).map Prod.fst ↔ key ∈ previous ∧ Path.below id key = true := by
  rw [List.mem_map, Std.TreeMap.mem_iff_isSome_getElem?, Option.isSome_iff_exists]
  constructor
  · intro h0
    obtain ⟨⟨k, t⟩, h, rfl⟩ := h0
    exact ⟨⟨t, (mem_below.mp h).1⟩, (mem_below.mp h).2⟩
  · intro h0
    obtain ⟨⟨t, ht⟩, hbelow⟩ := h0
    exact ⟨(key, t), mem_below.mpr ⟨ht, hbelow⟩, rfl⟩

theorem mem_postpone_seen : key ∈ (p.postpone previous d).seen ↔
    key ∈ p.seen ∨ (key ∈ previous ∧ Path.below d.id key = true) :=
  mem_keep_seen.trans (or_congr_right mem_below_keys)

theorem postpone_next : (p.postpone previous d).next = p.next := keep_next _ _

theorem postpone_deferred :
    (p.postpone previous d).report.deferred = p.report.deferred ++ [d] := by
  refine congrArg (· ++ [d]) ((keep_deferred _ _).trans ?_)
  exact remember_deferred p.report _

/-- An entry that has to wait, and all below it, keep the token of the previous pass. -/
theorem postpone_versions : (p.postpone previous d).report.versions[key]? =
    if key = d.id ∨ Path.below d.id key = true then previous[key]?.or p.report.versions[key]?
    else p.report.versions[key]? := by
  have hentries : ∀ e ∈ previous.below d.id, previous[e.1]? = some e.2 :=
    fun e he => (mem_below.mp he).1
  refine (keep_versions hentries).trans ?_
  have hself : (p.report.remember d.id previous[d.id]?).versions[key]? =
      if key = d.id then previous[d.id]?.or p.report.versions[key]? else p.report.versions[key]? :=
    remember_versions p.report previous[d.id]?
  rw [hself]
  by_cases hbelow : key ∈ (previous.below d.id).map Prod.fst
  · obtain ⟨hmem, hb⟩ := mem_below_keys.mp hbelow
    obtain ⟨t, ht⟩ := Option.isSome_iff_exists.mp (Std.TreeMap.mem_iff_isSome_getElem?.mp hmem)
    rw [if_pos hbelow, if_pos (Or.inr hb), ht, Option.some_or]
  · rw [if_neg hbelow]
    by_cases hid : key = d.id
    · rw [if_pos hid, if_pos (Or.inl hid), hid]
    · rw [if_neg hid]
      by_cases hb : Path.below d.id key = true
      · -- below, but the previous pass knew nothing of it
        have hnone : previous[key]? = none := by
          rw [← Option.not_isSome_iff_eq_none]
          intro hsome
          exact hbelow (mem_below_keys.mpr ⟨Std.TreeMap.mem_iff_isSome_getElem?.mpr hsome, hb⟩)
        rw [if_pos (Or.inr hb), hnone, Option.none_or]
      · rw [if_neg (fun h => h.elim hid hb)]

/-! ## The seen identifiers -/

variable {done : List Visit} {pending rest : List String} {deferred : List Deferral}

/-- The entry lies below one that is left to a later pass. -/
def Sheltered (deferred : List Deferral) (id : String) : Prop :=
  ∃ d ∈ deferred, Path.below d.id id = true

/-- The entry is left to a later pass, or lies below one that is. -/
def Awaited (deferred : List Deferral) (id : String) : Prop :=
  ∃ d ∈ deferred, id = d.id ∨ Path.below d.id id = true

/-- A pass is led to an entry by the seeds, or by a container that it was led to before. -/
inductive Led (seeds : List String) (done : List Visit) : String → Prop where
  | seed {id : String} (h : id ∈ seeds) : Led seeds done id
  | child {id : String} {v : Visit} {o : Outcome} (hv : v ∈ done) (hled : Led seeds done v.1)
      (ho : v.2 = .ok o) (hid : id ∈ o.children) : Led seeds done id

/-- What a pass has seen after the visits `done`, with `pending` still to be visited. -/
structure Accounted (previous : VersionMap) (seeds : List String) (done : List Visit)
    (pending : List String) (p : Progress) : Prop where
  /-- Nothing is visited twice. -/
  once : (done.map Prod.fst ++ pending).Nodup
  /-- What has been seen is visited, or pending, or known from before and sheltered. -/
  seen : ∀ id, id ∈ p.seen ↔
    id ∈ done.map Prod.fst ++ pending ∨ (id ∈ previous ∧ Sheltered p.report.deferred id)
  /-- The seeds are visited in any case. -/
  seeded : ∀ id ∈ seeds, id ∈ done.map Prod.fst ++ pending
  /-- Nothing that the pass was led to is missed. -/
  closed : ∀ id, Led seeds done id → id ∈ p.seen
  /-- The pass visits nothing but what it was led to. -/
  led : ∀ id ∈ done.map Prod.fst ++ pending, Led seeds done id
  /-- The deferrals are those of the visits. -/
  deferred : p.report.deferred = done.filterMap deferral?
  /-- No visit so far ended the pass. -/
  settled : ∀ v ∈ done, (∃ o, v.2 = .ok o) ∨ ∃ d, deferral? v = some d

theorem sheltered_append : Sheltered (deferred ++ [d]) id ↔
    Sheltered deferred id ∨ Path.below d.id id = true := by
  unfold Sheltered
  simp [or_and_right, exists_or]

theorem awaited_append : Awaited (deferred ++ [d]) id ↔
    Awaited deferred id ∨ (id = d.id ∨ Path.below d.id id = true) := by
  unfold Awaited
  simp [or_and_right, exists_or]

theorem Sheltered.awaited (h : Sheltered deferred id) : Awaited deferred id := by
  obtain ⟨d, hd, hbelow⟩ := h
  exact ⟨d, hd, Or.inr hbelow⟩

theorem Led.append (h : Led seeds done id) (visits : List Visit) :
    Led seeds (done ++ visits) id := by
  induction h with
  | seed hseed => exact .seed hseed
  | child hv _ ho hid ih => exact .child (List.mem_append_left _ hv) ih ho hid

theorem led_append_ok (hdone : ∀ w ∈ done, Led seeds done w.1) (hled : Led seeds done v.1)
    (hv : v.2 = .ok o) :
    Led seeds (done ++ [v]) id ↔ Led seeds done id ∨ id ∈ o.children := by
  constructor
  · intro h
    cases h with
    | seed hseed => exact Or.inl (.seed hseed)
    | @child _ w o' hw _ ho hid =>
        rcases List.mem_append.mp hw with hold | hnew
        · exact Or.inl (.child hold (hdone w hold) ho hid)
        · obtain rfl := List.mem_singleton.mp hnew
          obtain rfl := Except.ok.inj (ho.symm.trans hv)
          exact Or.inr hid
  · intro h0
    rcases h0 with h | hid
    · exact h.append [v]
    · exact .child (List.mem_append_right _ (List.mem_singleton_self v)) (hled.append [v]) hv hid

theorem led_append_deferral (hdone : ∀ w ∈ done, Led seeds done w.1)
    (hv : deferral? v = some d) : Led seeds (done ++ [v]) id ↔ Led seeds done id := by
  refine ⟨fun h => ?_, fun h => h.append [v]⟩
  cases h with
  | seed hseed => exact .seed hseed
  | @child _ w o' hw _ ho hid =>
      rcases List.mem_append.mp hw with hold | hnew
      · exact .child hold (hdone w hold) ho hid
      · obtain rfl := List.mem_singleton.mp hnew
        exact absurd ho (not_ok_of_deferral? hv)

theorem accounted_start (previous : VersionMap) (seeds : List String) :
    Accounted previous seeds [] (Pass.start seeds).1 (Pass.start seeds).2 where
  once := nodup_newcomers seeds ∅
  seen := by
    intro id
    refine mem_newcomers_seen.trans ?_
    change _ ↔ id ∈ (newcomers ∅ seeds).1 ∨ (_ ∧ Sheltered [] id)
    rw [mem_newcomers]
    simp [Sheltered, Std.TreeSet.not_mem_emptyc]
  seeded := fun id hid => mem_newcomers.mpr ⟨hid, Std.TreeSet.not_mem_emptyc⟩
  closed := by
    intro id h
    cases h with
    | seed hseed => exact mem_newcomers_seen.mpr (Or.inr hseed)
    | child hv => cases hv
  led := fun id h => .seed (mem_newcomers.mp h).1
  deferred := rfl
  settled := fun v h => by cases h

/-- The order in which the rest is visited is free. -/
theorem Accounted.perm {pending' : List String} (h : Accounted previous seeds done pending p)
    (hperm : pending.Perm pending') (next : List String) :
    Accounted previous seeds done pending' { p with next := next } where
  once := (List.Perm.nodup_iff (hperm.append_left _)).mp h.once
  seen := by
    intro id
    rw [← (hperm.append_left _).mem_iff]
    exact h.seen id
  seeded := fun id hid => (hperm.append_left _).mem_iff.mp (h.seeded id hid)
  closed := h.closed
  led := fun id hid => h.led id ((hperm.append_left _).mem_iff.mpr hid)
  deferred := h.deferred
  settled := h.settled

/-- **Every visit keeps account of the identifiers.** It takes its own identifier from the pending
to the visited, and adds what it leads to and has not been seen. -/
theorem absorb_accounted (h : Accounted previous seeds done (v.1 :: (rest ++ p.next)) p)
    (hv : p.absorb previous v = .ok p') :
    Accounted previous seeds (done ++ [v]) (rest ++ p'.next) p' := by
  have hids : ∀ ids : List String, (done ++ [v]).map Prod.fst ++ ids =
      done.map Prod.fst ++ v.1 :: ids := fun ids => by simp
  have hdone : ∀ w ∈ done, Led seeds done w.1 := fun w hw =>
    h.led w.1 (List.mem_append_left _ (List.mem_map_of_mem hw))
  have hself : Led seeds done v.1 := h.led v.1 (List.mem_append_right _ List.mem_cons_self)
  rcases absorb_ok hv with ⟨o, ho, rfl⟩ | ⟨d, hd, rfl⟩
  · have hnext : done.map Prod.fst ++ v.1 :: (rest ++ (p.reach o).next) =
        (done.map Prod.fst ++ v.1 :: (rest ++ p.next)) ++ (newcomers p.seen o.children).1 := by
      simp [Progress.reach]
    have hdeferred : (p.reach o).report.deferred = p.report.deferred := record_deferred _
    refine ⟨?_, ?_, ?_, ?_, ?_, ?_, ?_⟩
    · -- what is new has not been seen, unlike all that is visited or pending
      rw [hids, hnext, List.nodup_append]
      refine ⟨h.once, nodup_newcomers _ _, ?_⟩
      intro a ha b hb heq
      obtain rfl := heq
      exact (mem_newcomers.mp hb).2 ((h.seen a).mpr (Or.inl ha))
    · -- a child has been seen before or is new
      intro id
      rw [hids, hnext, hdeferred, List.mem_append, mem_newcomers]
      refine mem_newcomers_seen.trans ?_
      rw [h.seen id]
      by_cases hseen : id ∈ p.seen
      · have := (h.seen id).mp hseen
        constructor
        · intro _
          exact this.imp_left Or.inl
        · intro _
          exact Or.inl this
      · rw [← h.seen id]
        constructor
        · intro h0
          rcases h0 with hs | hc
          · exact absurd hs hseen
          · exact Or.inl (Or.inr ⟨hc, hseen⟩)
        · intro h0
          rcases h0 with (hs | ⟨hc, _⟩) | hs
          · exact Or.inl ((h.seen id).mpr (Or.inl hs))
          · exact Or.inr hc
          · exact Or.inl ((h.seen id).mpr (Or.inr hs))
    · intro id hid
      rw [hids, hnext]
      exact List.mem_append_left _ (h.seeded id hid)
    · -- what the visit leads to is its children
      intro id hid
      rcases (led_append_ok hdone hself ho).mp hid with hf | hc
      · exact mem_newcomers_seen.mpr (Or.inl (h.closed id hf))
      · exact mem_newcomers_seen.mpr (Or.inr hc)
    · intro id hid
      rw [hids, hnext] at hid
      rw [led_append_ok hdone hself ho]
      rcases List.mem_append.mp hid with hold | hnew
      · exact Or.inl (h.led id hold)
      · exact Or.inr (mem_newcomers.mp hnew).1
    · have hnone : deferral? v = none := by
        cases hd : deferral? v with
        | none => rfl
        | some d => exact absurd ho (not_ok_of_deferral? hd)
      rw [hdeferred, h.deferred, List.filterMap_append]
      simp [hnone]
    · intro w hw
      rcases List.mem_append.mp hw with hold | hnew
      · exact h.settled w hold
      · exact Or.inl ⟨o, List.mem_singleton.mp hnew ▸ ho⟩
  · -- an entry that has to wait leads nowhere, and shelters what was known below it
    refine ⟨?_, ?_, ?_, ?_, ?_, ?_, ?_⟩
    · rw [hids, postpone_next]
      exact h.once
    · intro id
      rw [hids, postpone_next, postpone_deferred, mem_postpone_seen, h.seen id, sheltered_append,
        and_or_left, or_assoc]
    · intro id hid
      rw [hids, postpone_next]
      exact h.seeded id hid
    · intro id hid
      rw [led_append_deferral hdone hd] at hid
      exact mem_postpone_seen.mpr (Or.inl (h.closed id hid))
    · intro id hid
      rw [hids, postpone_next] at hid
      exact (led_append_deferral hdone hd).mpr (h.led id hid)
    · rw [postpone_deferred, h.deferred, List.filterMap_append]
      simp [hd]
    · intro w hw
      rcases List.mem_append.mp hw with hold | hnew
      · exact h.settled w hold
      · exact Or.inr ⟨d, List.mem_singleton.mp hnew ▸ hd⟩

/-! ## The remembered tokens -/

/-- Some visit came to an outcome with this token for the entry. -/
def Tells (done : List Visit) (id token : String) : Prop :=
  ∃ v ∈ done, ∃ o, v.2 = .ok o ∧ o.id = id ∧ o.token? = some token

/-- Where the tokens of a report come from. -/
structure Remembered (previous : VersionMap) (done : List Visit) (p : Progress) : Prop where
  /-- A token is that of an outcome, or an awaited entry had it before. -/
  source : ∀ id token, p.report.versions[id]? = some token →
    Tells done id token ∨ (previous[id]? = some token ∧ Awaited p.report.deferred id)
  /-- No entry with a token is forgotten. -/
  told : ∀ id token, Tells done id token → p.report.versions[id]?.isSome
  /-- Nor is one that is awaited and was known before. -/
  kept : ∀ id, Awaited p.report.deferred id → previous[id]?.isSome →
    p.report.versions[id]?.isSome

theorem tells_append_ok (hv : v.2 = .ok o) : Tells (done ++ [v]) id token ↔
    Tells done id token ∨ (o.id = id ∧ o.token? = some token) := by
  unfold Tells
  simp only [List.mem_append, List.mem_singleton, or_and_right, exists_or, exists_eq_left, hv,
    Except.ok.injEq, exists_eq_left']

theorem tells_append_deferral (hv : deferral? v = some d) :
    Tells (done ++ [v]) id token ↔ Tells done id token := by
  unfold Tells
  simp only [List.mem_append, List.mem_singleton, or_and_right, exists_or, exists_eq_left]
  refine or_iff_left ?_
  intro h0
  obtain ⟨o, ho, _⟩ := h0
  exact not_ok_of_deferral? hv ho

theorem remembered_start (previous : VersionMap) (seeds : List String) :
    Remembered previous [] (Pass.start seeds).2 where
  source := fun id token h => by
    have hnone : (∅ : VersionMap)[id]? = none := Std.TreeMap.getElem?_emptyc
    exact absurd (hnone.symm.trans h) (fun h' => by cases h')
  told := by
    intro id token h0
    obtain ⟨_, h, _⟩ := h0
    cases h
  kept := by
    intro id h0
    obtain ⟨_, h, _⟩ := h0
    cases h

theorem Remembered.withNext (h : Remembered previous done p) (next : List String) :
    Remembered previous done { p with next := next } := ⟨h.source, h.told, h.kept⟩

/-- **Every visit keeps the tokens in order.** -/
theorem absorb_remembered (h : Remembered previous done p)
    (hv : p.absorb previous v = .ok p') : Remembered previous (done ++ [v]) p' := by
  rcases absorb_ok hv with ⟨o, ho, rfl⟩ | ⟨d, hd, rfl⟩
  · have hdeferred : (p.reach o).report.deferred = p.report.deferred := record_deferred _
    have hversions : ∀ id : String, (p.reach o).report.versions[id]? =
        if id = o.id then o.token?.or p.report.versions[id]? else p.report.versions[id]? :=
      fun id => record_versions p.report
    -- no outcome takes a token away
    have hmono : ∀ id : String, p.report.versions[id]?.isSome →
        (p.reach o).report.versions[id]?.isSome := by
      intro id hsome
      rw [hversions]
      split
      · simp [hsome]
      · exact hsome
    refine ⟨?_, ?_, ?_⟩
    · intro id token htok
      rw [hdeferred, tells_append_ok ho]
      have hold : p.report.versions[id]? = some token → (Tells done id token ∨
          (o.id = id ∧ o.token? = some token)) ∨
          (previous[id]? = some token ∧ Awaited p.report.deferred id) :=
        fun hv => (h.source id token hv).imp_left Or.inl
      rw [hversions] at htok
      split at htok
      · rename_i hid
        cases ht : o.token? with
        | none =>
            rw [ht, Option.none_or] at htok
            rw [ht] at hold
            exact hold htok
        | some t =>
            rw [ht, Option.some_or] at htok
            exact Or.inl (Or.inr ⟨hid.symm, htok⟩)
      · exact hold htok
    · intro id token htells
      rcases (tells_append_ok ho).mp htells with hold | ⟨rfl, ht⟩
      · exact hmono id (h.told id token hold)
      · rw [hversions, if_pos rfl, ht]
        rfl
    · intro id hawait hsome
      rw [hdeferred] at hawait
      exact hmono id (h.kept id hawait hsome)
  · have hversions : ∀ id : String, (p.postpone previous d).report.versions[id]? =
        if id = d.id ∨ Path.below d.id id = true then previous[id]?.or p.report.versions[id]?
        else p.report.versions[id]? := fun id => postpone_versions
    have hmono : ∀ id : String, p.report.versions[id]?.isSome →
        (p.postpone previous d).report.versions[id]?.isSome := by
      intro id hsome
      rw [hversions]
      split
      · simp [hsome]
      · exact hsome
    -- where the previous token is put in, the entry is awaited from now on
    refine ⟨?_, ?_, ?_⟩
    · intro id token htok
      rw [postpone_deferred, awaited_append, tells_append_deferral hd]
      have hold : p.report.versions[id]? = some token → Tells done id token ∨
          (previous[id]? = some token ∧ (Awaited p.report.deferred id ∨
            (id = d.id ∨ Path.below d.id id = true))) :=
        fun hv => (h.source id token hv).imp_right (fun ⟨hp, ha⟩ => ⟨hp, Or.inl ha⟩)
      rw [hversions] at htok
      split at htok
      · rename_i hbelow
        cases hp : previous[id]? with
        | none =>
            rw [hp, Option.none_or] at htok
            rw [hp] at hold
            exact hold htok
        | some t =>
            rw [hp, Option.some_or] at htok
            exact Or.inr ⟨htok, Or.inr hbelow⟩
      · exact hold htok
    · intro id token htells
      exact hmono id (h.told id token ((tells_append_deferral hd).mp htells))
    · intro id hawait hsome
      rw [postpone_deferred, awaited_append] at hawait
      rcases hawait with hold | hnew
      · exact hmono id (h.kept id hold hsome)
      · rw [hversions, if_pos hnew]
        simp [hsome]

end Harvest
