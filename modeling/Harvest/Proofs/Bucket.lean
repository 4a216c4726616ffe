import Harvest.Proofs.Echoes
import Harvest.Proofs.GlobLanguage
import Harvest.Proofs.Table

/-!
# Crawling a bucket

A crawl over an object service makes out from keys and prefixes what is there, what leads on, and where
to. `bucket_crawled` says what comes of that for any finite set of objects: a first pass from the root
with the rules that include everything takes in every object that lies below no other one, once, and
nothing else.

Of the service only what it answers is asked for (`Presents`). Its store then holds the tree of the
keys (`Presents.shows`). An object is looked for before a prefix is, so a key that is also the beginning
of others counts as a leaf, and what lies below it is not found: what is reached leads to some key, and
past none (`Shows.finds_iff`, by induction on the components). `bucket_hides_nested` is an instance.
-/

namespace Harvest.ObjectService

open Harvest.Path

variable {σ : Type} {answers : ObjectService Id} {keys found : List String} {k o id : String}
  {ns : List (List Char)} {n : List Char} {status : ObjectStatus} {f : Failure} {S : Snapshot}
  {p : Processor (StateM σ)} {e : Entry} {known : Knowledge}

/-! ## What its store makes of it -/

theorem status?_of_pure (h : answers.status k = pure status) (purpose id : String) :
    answers.status? purpose id k = pure (some status) := by
  unfold status?
  rw [h]
  rfl

theorem status?_of_absent (h : answers.status k = throw f) (hf : saysAbsent f = true)
    (purpose id : String) : answers.status? purpose id k = pure none := by
  unfold status?
  rw [h]
  change ExceptT.mk (pure (if saysAbsent f then .ok none else _)) = _
  rw [if_pos hf]
  rfl

theorem held_present : answers.store.held.present id =
    (if (key id).isEmpty then pure true else do return (← answers.find? id).isSome :
      Action Id Bool).getD false := by
  dsimp only [Store.held, store]

theorem held_isContainer (h : answers.find id = pure status) :
    answers.store.held.isContainer id = status.isPrefix := by
  dsimp only [Store.held, store]
  rw [h]
  rfl

theorem held_of_find? (h : answers.find? id = pure (some status)) :
    answers.store.held.present id = true ∧
      answers.store.held.isContainer id = status.isPrefix := by
  refine ⟨?_, held_isContainer (by rw [find, h]; rfl)⟩
  rw [held_present, h]
  split
  · rfl
  · rfl

/-- The root is always there. -/
theorem held_root (h : (key id).isEmpty = true) :
    answers.store.held.present id = true ∧ answers.store.held.isContainer id = true := by
  constructor
  · rw [held_present, if_pos h]
    rfl
  · have hnone : answers.find? id = pure none := by rw [find?, if_pos h]
    have hfind : answers.find id = pure ⟨true, 0, none⟩ := by
      rw [find, hnone, pure_bind]
      dsimp only
      rw [if_pos h]
    exact held_isContainer hfind

theorem held_children (h : answers.list (keyStart id) = pure found) :
    answers.store.held.children id = childIds (keyStart id) found := by
  change (Action.getD (do
    let keys ← Action.within _ (answers.list (keyStart id))
    return Listing.ofList (childIds (keyStart id) keys)) _).children = _
  rw [h]
  rfl

/-! ## The tree of the keys -/

/-- Components that some key begins with, or none. -/
def Begins (keys : List String) (ns : List (List Char)) : Prop :=
  ns = [] ∨ ∃ o ∈ keys, ns <+: names o

theorem Begins.isName (hkeys : ∀ k ∈ keys, IsKey k) (h : Begins keys ns) : ∀ n ∈ ns, IsName n := by
  intro n hn
  rcases h with rfl | ⟨o, ho, hbegins⟩
  · cases hn
  · exact (hkeys o ho).isName n (hbegins.subset hn)

/-- Components that lead to some key, and are those of none. -/
structure Inner (keys : List String) (ns : List (List Char)) : Prop where
  leads : Begins keys ns
  free : ∀ k ∈ keys, names k ≠ ns

/-- Such components are those of a folder, unless there are none. -/
theorem Inner.isFolder (hkeys : ∀ k ∈ keys, IsKey k) (h : Inner keys ns) (hne : ns ≠ []) :
    IsFolder keys (key (idOf ns)) ∧ key (idOf ns) ∉ keys := by
  have hns := h.leads.isName hkeys
  have hk := isKey_key_idOf hns hne
  have hnames := names_key_idOf hns hne
  obtain ⟨o, ho, hbegins⟩ := h.leads.resolve_left hne
  have hbelow : names (key (idOf ns)) <+: names o ∧ names (key (idOf ns)) ≠ names o := by
    rw [hnames]
    exact ⟨hbegins, (h.free o ho).symm⟩
  exact ⟨⟨hk, o, ho, (below_iff_names hk (hkeys o ho)).mpr hbelow⟩, fun hmem => h.free _ hmem hnames⟩

/-- What a store holds whose objects have these keys: leaves for the objects, and above them the
containers that lead to them. -/
structure Shows (S : Snapshot) (keys : List String) : Prop where
  object : ∀ k ∈ keys, S.present (idOf (names k)) = true ∧ S.isContainer (idOf (names k)) = false
  inner : ∀ ns, Inner keys ns → S.present (idOf ns) = true ∧ S.isContainer (idOf ns) = true
  children : ∀ ns, Inner keys ns → ∀ id, id ∈ S.children (idOf ns) ↔
    ∃ n, id = idOf (ns ++ [n]) ∧ ∃ o ∈ keys, ns ++ [n] <+: names o

namespace Presents

theorem find?_object (h : answers.Presents keys) (hkeys : ∀ k ∈ keys, IsKey k) (hk : k ∈ keys) :
    ∃ status, answers.find? (idOf (names k)) = pure (some status) ∧ status.isPrefix = false := by
  obtain ⟨status, hstatus, hfound⟩ := h.object k hk
  have hkey := key_idOf_names (hkeys k hk)
  have hempty : ¬ (k.isEmpty = true) := fun hempty =>
    (hkeys k hk).ne_empty (String.isEmpty_iff.mp hempty)
  refine ⟨status, ?_, hfound⟩
  rw [find?, hkey, if_neg hempty, status?_of_pure hstatus, pure_bind]

theorem find?_folder (h : answers.Presents keys) (hfolder : IsFolder keys (key id))
    (hk : key id ∉ keys) :
    ∃ status, answers.find? id = pure (some status) ∧ status.isPrefix = true := by
  obtain ⟨f, hmissing, hf⟩ := h.missing _ hfolder hk
  obtain ⟨status, hstatus, hfound⟩ := h.folder _ hfolder
  have hempty : ¬ ((key id).isEmpty = true) := fun hempty =>
    hfolder.1.ne_empty (String.isEmpty_iff.mp hempty)
  refine ⟨status, ?_, hfound⟩
  rw [find?, if_neg hempty, status?_of_absent hmissing hf, pure_bind]
  dsimp only
  rw [keyStart, if_neg hempty, status?_of_pure hstatus]

/-- **The store of such a service holds the tree of the keys.** -/
theorem shows (h : answers.Presents keys) (hkeys : ∀ k ∈ keys, IsKey k) :
    Shows answers.store.held keys where
  object := by
    intro k hk
    obtain ⟨status, hfind, hfound⟩ := h.find?_object hkeys hk
    obtain ⟨hpresent, hkind⟩ := held_of_find? hfind
    exact ⟨hpresent, hkind.trans hfound⟩
  inner := by
    intro ns hns
    by_cases hne : ns = []
    · subst hne
      exact held_root rfl
    · obtain ⟨hfolder, hk⟩ := hns.isFolder hkeys hne
      obtain ⟨status, hfind, hfound⟩ := h.find?_folder hfolder hk
      obtain ⟨hpresent, hkind⟩ := held_of_find? hfind
      exact ⟨hpresent, hkind.trans hfound⟩
  children := by
    intro ns hns id
    have hkey : key (idOf ns) = "" ∨ IsFolder keys (key (idOf ns)) := by
      by_cases hne : ns = []
      · exact Or.inl (hne ▸ key_idOf_nil)
      · exact Or.inr (hns.isFolder hkeys hne).1
    obtain ⟨found, hlist, hall, honly⟩ := h.listed _ hkey
    have hlist : answers.list (keyStart (idOf ns)) = pure found := hlist
    rw [held_children hlist]
    exact mem_childIds_of_lists hkeys (hns.leads.isName hkeys) hall honly

end Presents

/-! ## What is found -/

/-- Components that lead to some key, and past none. -/
structure Reached (keys : List String) (ns : List (List Char)) : Prop where
  leads : Begins keys ns
  stops : ∀ k ∈ keys, names k <+: ns → names k = ns

theorem reached_nil (keys : List String) : Reached keys [] where
  leads := Or.inl rfl
  stops := fun _ _ hbegins => List.prefix_nil.mp hbegins

/-- What is reached is an object, or leads on. -/
theorem Reached.cases (h : Reached keys ns) : (∃ k ∈ keys, names k = ns) ∨ Inner keys ns := by
  by_cases hk : ∃ k ∈ keys, names k = ns
  · exact Or.inl hk
  · exact Or.inr ⟨h.leads, fun k hmem heq => hk ⟨k, hmem, heq⟩⟩

/-- What leads on leads to what is reached. -/
theorem Inner.reached_concat (h : Inner keys ns) (hreached : Reached keys ns) (ho : o ∈ keys)
    (hleads : ns ++ [n] <+: names o) : Reached keys (ns ++ [n]) where
  leads := Or.inr ⟨o, ho, hleads⟩
  stops := by
    intro k hk hbegins
    rcases List.prefix_concat_iff.mp hbegins with heq | hbegins
    · exact heq
    · exact absurd (hreached.stops k hk hbegins) (h.free k hk)

/-- What is reached is reached by way of what leads on. -/
theorem Reached.init (h : Reached keys (ns ++ [n])) : Reached keys ns ∧ Inner keys ns := by
  obtain ⟨o, ho, hbegins⟩ := h.leads.resolve_left (concat_ne_nil ns n)
  have hfree : ∀ k ∈ keys, ¬ names k <+: ns := by
    intro k hk hbegins
    have hlength := congrArg List.length (h.stops k hk (hbegins.trans (List.prefix_append ns [n])))
    have hle := hbegins.length_le
    rw [List.length_append, List.length_singleton] at hlength
    omega
  have hreached : Reached keys ns :=
    ⟨Or.inr ⟨o, ho, (List.prefix_append ns [n]).trans hbegins⟩,
      fun k hk hbegins => absurd hbegins (hfree k hk)⟩
  refine ⟨hreached, hreached.cases.resolve_left ?_⟩
  rintro ⟨k, hk, rfl⟩
  exact hfree k hk (List.prefix_refl _)

/-- **What a crawl finds from the root is what leads to some key and past none**, if nothing that is
there is excluded. -/
theorem Shows.finds_iff (h : Shows S keys) (hadmits : ∀ ns, Inner keys ns → p.admits S (idOf ns)) :
    p.Finds S ["/"] id ↔ ∃ ns, id = idOf ns ∧ Reached keys ns := by
  constructor
  · intro hfinds
    induction hfinds with
    | seed hseed => exact ⟨[], List.mem_singleton.mp hseed, reached_nil keys⟩
    | @child parent id _ _ hkind hid ih =>
        obtain ⟨ns, rfl, hreached⟩ := ih
        rcases hreached.cases with ⟨k, hk, rfl⟩ | hinner
        · exact absurd ((h.object k hk).2.symm.trans hkind) Bool.false_ne_true
        · obtain ⟨n, rfl, o, ho, hleads⟩ := (h.children ns hinner id).mp hid
          exact ⟨ns ++ [n], rfl, hinner.reached_concat hreached ho hleads⟩
  · rintro ⟨ns, rfl, hreached⟩
    induction ns using List.reverseRecOn with
    | nil => exact .seed (List.mem_singleton_self _)
    | append_singleton ns n ih =>
        obtain ⟨hbefore, hinner⟩ := hreached.init
        obtain ⟨o, ho, hleads⟩ := hreached.leads.resolve_left (concat_ne_nil ns n)
        exact .child (ih hbefore) (hadmits ns hinner) (h.inner ns hinner).2
          ((h.children ns hinner _).mpr ⟨n, rfl, o, ho, hleads⟩)

/-! ## What is admitted -/

theorem covers_idOf (hns : ∀ n ∈ ns, IsName n) : (Scope.new "/").covers (idOf ns) = true := by
  unfold Scope.covers
  by_cases hne : ns = []
  · subst hne
    rfl
  · have hbelow : (Scope.new "/").relative? (idOf ns) = Scope.properTail (branch ns) :=
      congrArg Scope.properTail (toList_idOf hne)
    rw [hbelow, Scope.properTail_branch hne (fun n hn => (hns n hn).1), Option.isSome_some,
      Bool.or_true]

/-! ## Crawling -/

/-- The keys that lie below no other key. -/
def topmost (keys : List String) : List String :=
  keys.filter (fun k => !keys.any (fun o => Path.below o k))

/-- The identifiers that a crawl can be led to. -/
def ways (keys : List String) : List String :=
  "/" :: keys.flatMap (fun k => (names k).inits.map idOf)

theorem mem_topmost (hkeys : ∀ k ∈ keys, IsKey k) :
    k ∈ topmost keys ↔ k ∈ keys ∧ Reached keys (names k) := by
  unfold topmost
  rw [List.mem_filter, Bool.not_eq_true', List.any_eq_false]
  refine and_congr_right (fun hk => ?_)
  constructor
  · intro hfree
    refine ⟨Or.inr ⟨k, hk, List.prefix_refl _⟩, fun o ho hbegins => ?_⟩
    by_contra hne
    exact hfree o ho ((below_iff_names (hkeys o ho) (hkeys k hk)).mpr ⟨hbegins, hne⟩)
  · intro hreached o ho hbelow
    obtain ⟨hbegins, hne⟩ := (below_iff_names (hkeys o ho) (hkeys k hk)).mp hbelow
    exact hne (hreached.stops o ho hbegins)

theorem Reached.mem_ways (h : Reached keys ns) : idOf ns ∈ ways keys := by
  rcases h.leads with rfl | ⟨o, ho, hbegins⟩
  · exact List.mem_cons_self
  · exact List.mem_cons_of_mem _ (List.mem_flatMap.mpr
      ⟨o, ho, List.mem_map_of_mem ((List.mem_inits _ _).mpr hbegins)⟩)

/-- Everything that is there is admitted. -/
theorem admits_everything (htree : p.tree = .everything) (hns : ∀ n ∈ ns, IsName n) :
    p.admits S (idOf ns) = S.present (idOf ns) := by
  have hrules : p.tree.mayInclude (S.entry p.encoder (idOf ns)) = true := by
    rw [htree, RuleTree.mayInclude, includes_everything]
    exact covers_idOf hns
  rw [Processor.admits, hrules, Bool.and_true]

variable {inv : σ → Prop} {service : ObjectService (StateM σ)} {ids : List String} {r : Round σ}

/-- Such a service reports no access lists. -/
theorem described_access (hstore : p.store = service.store) (h : Described p inv e) :
    e.access = none ∧ e.containerAccess = none := by
  have hnone : ∀ {access : Option (List AccessEntry)}, Answers inv (pure none) access →
      access = none := by
    rintro access ⟨_, _, _, hrun⟩
    cases hrun
    rfl
  have haccess := h.access
  have hcontainer := h.containerAccess
  rw [hstore] at haccess hcontainer
  constructor
  · split at haccess
    · exact hnone haccess
    · exact haccess
  · split at hcontainer
    · exact hnone hcontainer
    · exact hcontainer

/-- **Every call of an undisturbed pass comes to what the tree of the keys leads to.** -/
theorem ruled (hstore : p.store = service.store) (htree : p.tree = .everything) (hfits : p.Fits)
    (hkeeps : Conduct p (Keeping inv) (fun _ => True)) (hfollows : service.Follows inv answers)
    (hstart : inv r.start) {before : Standing} {seeds : List String}
    (hquiet : ∀ event ∈ r.events p seeds before, event.isFault = false) :
    ∀ c ∈ r.calls p seeds before, Ruled p answers.store.held (fun _ => false) c := by
  have hstill : Still p.blind inv answers.store.held (fun _ => false) := by
    refine Store.Follows.still ?_ hkeeps _
    rw [hstore]
    exact hfollows.store
  have hsettled : ∀ e, Described p inv e → p.flag e ≠ .dependsOnContent := by
    intro e he
    obtain ⟨haccess, hcontainer⟩ := described_access hstore he
    exact (flag_everything htree hfits haccess hcontainer).1
  exact (Round.ruled_of hkeeps (fun _ _ hc => hc.ruled_blind hstill hsettled) hstart hquiet).2

/-- Of an object the receiver gets the version, and of what leads to objects it is told nothing. -/
theorem Shows.linesOf_eq (h : Shows answers.store.held keys) (hkeys : ∀ k ∈ keys, IsKey k)
    (htree : p.tree = .everything) (hfits : p.Fits) (hreached : Reached keys ns) :
    p.linesOf answers.store.held (fun _ => false) (idOf ns) none =
      if answers.store.held.isContainer (idOf ns) then []
      else [(idOf ns, some (p.token (answers.store.held.entry p.encoder (idOf ns))))] := by
  have hns := hreached.leads.isName hkeys
  have hadmits := admits_everything (S := answers.store.held) htree hns
  unfold Processor.linesOf
  rcases hreached.cases with ⟨k, hk, rfl⟩ | hinner
  · obtain ⟨hpresent, hkind⟩ := h.object k hk
    rw [hpresent] at hadmits
    have hflag := (flag_everything (e := answers.store.held.entry p.encoder (idOf (names k)))
      htree hfits ?_ ?_).2 (covers_idOf hns)
    · rw [plan_leaf hadmits hkind, if_neg nofun, welcomes_of_include hflag, if_pos rfl, hkind]
      rfl
    · change (if _ then answers.store.held.access _ else none) = none
      exact ite_self none
    · change (if _ then answers.store.held.containerAccess _ else none) = none
      exact ite_self none
  · obtain ⟨hpresent, hkind⟩ := h.inner ns hinner
    rw [hpresent] at hadmits
    rw [plan_open hadmits hkind, hkind]
    rfl

/-- What is told of objects, once what leads to them is left out. -/
theorem flatMap_lines {lines : String → List (String × Option String)} {leads : String → Bool}
    (token : String → String) : ∀ {ids : List String},
    (∀ id ∈ ids, lines id = if leads id then [] else [(id, some (token id))]) →
      ids.flatMap lines = (ids.filter (!leads ·)).map (fun id => (id, some (token id)))
  | [], _ => rfl
  | id :: ids, h => by
      have ih := flatMap_lines token (fun id hid => h id (List.mem_cons_of_mem _ hid))
      rw [List.flatMap_cons, h id List.mem_cons_self, ih]
      cases hleads : leads id with
      | true => rw [List.filter_cons_of_neg (by rw [hleads]; decide)]; rfl
      | false => rw [List.filter_cons_of_pos (by rw [hleads]; decide)]; rfl

/-- Of what is reached, the leaves are the objects that lie below no other. -/
theorem Shows.leaves_perm (h : Shows S keys) (hkeys : ∀ k ∈ keys, IsKey k) (hnodup : keys.Nodup)
    (honce : ids.Nodup) (hids : ∀ id, id ∈ ids ↔ ∃ ns, id = idOf ns ∧ Reached keys ns) :
    (ids.filter (!S.isContainer ·)).Perm ((topmost keys).map ("/" ++ ·)) := by
  have hinj : Function.Injective ("/" ++ · : String → String) := by
    intro k o hsame
    have hlists := congrArg String.toList hsame
    rw [String.toList_append, String.toList_append] at hlists
    exact String.toList_inj.mp (List.append_cancel_left hlists)
  refine (List.perm_ext_iff_of_nodup (honce.filter _)
    ((hnodup.filter _).map hinj)).mpr (fun id => ?_)
  rw [List.mem_filter, Bool.not_eq_true', hids, List.mem_map]
  constructor
  · rintro ⟨⟨ns, rfl, hreached⟩, hleaf⟩
    rcases hreached.cases with ⟨k, hk, rfl⟩ | hinner
    · exact ⟨k, (mem_topmost hkeys).mpr ⟨hk, hreached⟩, (idOf_names k).symm⟩
    · exact absurd (hleaf.symm.trans (h.inner ns hinner).2) Bool.false_ne_true
  · rintro ⟨k, hk, rfl⟩
    obtain ⟨hk, hreached⟩ := (mem_topmost hkeys).mp hk
    rw [← idOf_names]
    exact ⟨⟨names k, rfl, hreached⟩, (h.object k hk).2⟩

/-- **A crawl takes in the objects that lie below no other object.** Let a service answer from a
finite set of objects whose keys are made of components, and let nothing disturb a first pass from the
root with the rules that include everything. If its horizon is wide enough, it succeeds, and the
receiver is handed the objects whose keys do not go on from the key of another one, each once, and is
told of nothing else. -/
theorem bucket_crawled (p : Processor (StateM σ)) (inv : σ → Prop)
    (service : ObjectService (StateM σ)) (answers : ObjectService Id) (keys : List String)
    (hstore : p.store = service.store) (htree : p.tree = .everything) (hfits : p.Fits)
    (hkeeps : Conduct p (Keeping inv) (fun _ => True)) (hfollows : service.Follows inv answers)
    (hpresents : answers.Presents keys) (hnodup : keys.Nodup) (hkeys : ∀ k ∈ keys, IsKey k)
    (r : Round σ) (hlong : (ways keys).length ≤ r.horizon) (hstart : inv r.start)
    (hquiet : ∀ event ∈ r.events p ["/"] .empty, event.isFault = false) :
    (∃ report, r.report? p ["/"] .empty = some report) ∧
      ∃ token : String → String, (ledger (r.events p ["/"] .empty)).Perm
        ((topmost keys).map (fun k => ("/" ++ k, some (token ("/" ++ k))))) := by
  have hshows := hpresents.shows hkeys
  have hruled := ruled hstore htree hfits hkeeps hfollows hstart hquiet
  have hfinds : ∀ id, p.Finds answers.store.held ["/"] id ↔
      ∃ ns, id = idOf ns ∧ Reached keys ns := fun id =>
    hshows.finds_iff (fun ns hinner => (admits_everything htree (hinner.leads.isName hkeys)).trans
      (hshows.inner ns hinner).1)
  have hways : ∀ id, p.Finds answers.store.held ["/"] id → id ∈ ways keys := by
    intro id hid
    obtain ⟨ns, rfl, hreached⟩ := (hfinds id).mp hid
    exact hreached.mem_ways
  have hfinite : {id | p.Finds answers.store.held ["/"] id}.Finite :=
    (List.finite_toSet (ways keys)).subset hways
  have hfew : hfinite.toFinset.card ≤ (ways keys).length := by
    have hsubset : hfinite.toFinset ⊆ (ways keys).toFinset := fun id hid =>
      List.mem_toFinset.mpr (hways id (hfinite.mem_toFinset.mp hid))
    exact (Finset.card_le_card hsubset).trans (List.toFinset_card_le _)
  obtain ⟨report, hreport⟩ := Round.succeeds hruled hfinite (hfew.trans hlong)
  obtain ⟨ids, honce, hids, hledger⟩ := Round.first hruled hreport
  refine ⟨⟨report, hreport⟩, fun id => p.token (answers.store.held.entry p.encoder id), ?_⟩
  have hlines : ∀ id ∈ ids, p.linesOf answers.store.held (fun _ => false) id none =
      if answers.store.held.isContainer id then []
      else [(id, some (p.token (answers.store.held.entry p.encoder id)))] := by
    intro id hid
    obtain ⟨ns, rfl, hreached⟩ := (hfinds id).mp ((hids id).mp hid)
    exact hshows.linesOf_eq hkeys htree hfits hreached
  have hleaves := hshows.leaves_perm hkeys hnodup honce (fun id => (hids id).trans (hfinds id))
  rw [hledger, flatMap_lines (fun id => p.token (answers.store.held.entry p.encoder id)) hlines]
  have hperm := hleaves.map
    (fun id => (id, some (p.token (answers.store.held.entry p.encoder id))))
  rwa [List.map_map] at hperm

/-! ## An object below another -/

/-- The crawl over a table. -/
def tableCrawl (t : ObjectTable) : Processor (StateM Unit) :=
  { ringCrawl with store := (ofTable t).store }

theorem ofTable_follows (t : ObjectTable) :
    (ofTable t : ObjectService (StateM Unit)).Follows (fun _ => True) (ofTable t) where
  status := fun _ => .ofResult _
  list := fun _ => .pure _

theorem tableCrawl_fits (t : ObjectTable) : (tableCrawl t).Fits := fun _ _ _ =>
  ⟨fun _ h => (nomatch h), fun _ h => (nomatch h)⟩

/-- The children of an identifier, sorted by insertion, which computes. -/
def insertedIds (start : String) (keys : List String) : List String :=
  let names := keys.map (fun k => String.ofList (Path.trimEnd k.toList))
  let below := names.filter (fun n => n != "" && n ++ "/" != start)
  (List.insertionSort (· ≤ ·) (below.map ("/" ++ ·))).eraseReps

theorem childIds_eq_insertedIds (start : String) (keys : List String) :
    childIds start keys = insertedIds start keys := by
  unfold childIds insertedIds
  dsimp only
  rw [← List.mergeSort_eq_insertionSort]

/-- The crawl over a table, with listings that compute. -/
theorem tableCrawl_eq (t : ObjectTable) : tableCrawl t =
    { ringCrawl with
      store :=
        { (ofTable t).store with
          children := fun id =>
            pure (.ofList (insertedIds (keyStart id) (t.list (keyStart id)))) } } := by
  have hchildren : (ofTable t : ObjectService (StateM Unit)).store.children =
      fun id => pure (.ofList (insertedIds (keyStart id) (t.list (keyStart id)))) := by
    funext id
    rw [← childIds_eq_insertedIds]
    rfl
  rw [← hchildren]
  rfl

/-- Two objects, one of which lies below the other. -/
def nestedKeys : List String := ["d/a", "d/a/b"]

/-- The table of the two. -/
def nestedTable : ObjectTable := ⟨nestedKeys.map (fun k => (k, .empty))⟩

/-- A pass over the table. -/
def nestedRound : Round Unit := ⟨.inOrder, 8, ()⟩

theorem nested_keys : ∀ k ∈ tableKeys nestedTable, IsKey k := by decide +kernel

theorem nested_presents : (ofTable nestedTable : ObjectService Id).Presents nestedKeys :=
  ofTable_presents nested_keys (by decide +kernel)

/-- Nothing disturbs the pass. -/
theorem nested_quiet : ∀ event ∈ nestedRound.events (tableCrawl nestedTable) ["/"] .empty,
    event.isFault = false := by
  rw [tableCrawl_eq]
  decide +kernel

/-- The object above is taken in, and nothing else. -/
theorem bucket_crawled_nested : ∃ token : String → String,
    (ledger (nestedRound.events (tableCrawl nestedTable) ["/"] .empty)).Perm
      [("/d/a", some (token "/d/a"))] := by
  obtain ⟨_, htaken⟩ := bucket_crawled (tableCrawl nestedTable) (fun _ => True)
    (ofTable nestedTable) (ofTable nestedTable) nestedKeys rfl rfl (tableCrawl_fits _)
    (conduct_trivial _) (ofTable_follows _) nested_presents (by decide) nested_keys nestedRound
    (by decide +kernel) trivial nested_quiet
  have htopmost : topmost nestedKeys = ["d/a"] := by decide +kernel
  rw [htopmost] at htaken
  exact htaken

/-- **Not every object is taken in.** The service answers as it should, the keys are made of
components, and nothing disturbs the pass, which succeeds. Still the receiver is not told of the
object that lies below another one. -/
theorem bucket_hides_nested :
    tableKeys nestedTable = nestedKeys ∧ nestedKeys.Nodup ∧ (∀ k ∈ nestedKeys, IsKey k) ∧
      (ofTable nestedTable : ObjectService Id).Presents nestedKeys ∧
      (∀ event ∈ nestedRound.events (tableCrawl nestedTable) ["/"] .empty,
        event.isFault = false) ∧
      (nestedRound.report? (tableCrawl nestedTable) ["/"] .empty).isSome = true ∧
      (ledger (nestedRound.events (tableCrawl nestedTable) ["/"] .empty)).map Prod.fst = ["/d/a"] ∧
      ¬((ledger (nestedRound.events (tableCrawl nestedTable) ["/"] .empty)).map Prod.fst).Perm
        (nestedKeys.map ("/" ++ ·)) := by
  have htold : (ledger (nestedRound.events (tableCrawl nestedTable) ["/"] .empty)).map Prod.fst =
      ["/d/a"] := by
    rw [tableCrawl_eq]
    decide +kernel
  have hreport : (nestedRound.report? (tableCrawl nestedTable) ["/"] .empty).isSome = true := by
    rw [tableCrawl_eq]
    decide +kernel
  refine ⟨rfl, by decide, nested_keys, nested_presents, nested_quiet, hreport, htold, ?_⟩
  rw [htold]
  exact fun hperm => absurd hperm.length_eq (by decide)

end Harvest.ObjectService
