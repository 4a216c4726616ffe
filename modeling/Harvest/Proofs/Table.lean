import Mathlib.Data.List.Infix
import Harvest.Proofs.Keys

/-!
# Tables of objects

A table of objects says of its keys what a service has to say (`ofTable_presents`), as long as
it takes the keys, and those of the folders above them, for what they are.
-/

namespace Harvest.ObjectService

open Harvest.Path ObjectTable

variable {t : ObjectTable} {keys : List String} {k o start c : String} {ns : List (List Char)}
  {n : List Char}

/-- The service of a table that stays as it is. -/
def ofTable {m : Type → Type} [Monad m] (t : ObjectTable) : ObjectService m where
  status := fun k => .ofResult (t.status k)
  list := fun start => pure (t.list start)
  read := fun k => .ofResult (t.read k)
  write := fun _ _ => throw unsupported

/-- The keys of a table. -/
def tableKeys (t : ObjectTable) : List String := t.objects.map Prod.fst

/-! ## Single keys -/

theorem get?_isSome : (t.get? k).isSome = true ↔ k ∈ tableKeys t := by
  unfold ObjectTable.get? tableKeys
  rw [List.lookup_isSome_iff, List.mem_map]
  constructor
  · rintro ⟨entry, hentry, hk⟩
    exact ⟨entry, hentry, (beq_iff_eq.mp hk).symm⟩
  · rintro ⟨entry, hentry, rfl⟩
    exact ⟨entry, hentry, beq_self_eq_true _⟩

/-- A key asks for itself. -/
theorem IsKey.asksBelow_eq (hk : IsKey k) : asksBelow k = false := by
  have hne : k.toList ≠ [] := fun hnil => hk.ne_empty (String.toList_inj.mp hnil)
  have hlast := List.rdropWhile_eq_self_iff.mp hk.trimEnd_eq hne
  have hempty : k.isEmpty = false := Bool.eq_false_iff.mpr
    (fun hempty => hk.ne_empty (String.isEmpty_iff.mp hempty))
  rw [asksBelow, hempty, Bool.false_or, List.getLast?_eq_some_getLast hne]
  exact Bool.eq_false_iff.mpr (fun heq => hlast (beq_iff_eq.mpr (Option.some.inj (beq_iff_eq.mp heq))))

/-- With a separator behind it, it asks for what continues it. -/
theorem asksBelow_append (k : String) : asksBelow (k ++ "/") = true := by
  have hlast : (k ++ "/").toList.getLast? = some '/' := by
    rw [String.toList_append]
    exact List.getLast?_concat
  rw [asksBelow, hlast, beq_self_eq_true, Bool.or_true]

/-! ## Listings -/

theorem takeWhile_branch (hn : separator ∉ n) (more : List (List Char)) :
    (n ++ branch more).takeWhile (· != '/') = n := by
  have hpos : ∀ c ∈ n, (c != '/') = true := by
    intro c hc
    rw [bne_iff_ne]
    rintro rfl
    exact hn hc
  have hstop : (branch more).takeWhile (· != '/') = [] := by cases more <;> rfl
  rw [List.takeWhile_append_of_pos hpos, hstop, List.append_nil]

theorem step?_eq_some : step? start o = some c ↔ ∃ rest, start.toList ++ rest = o.toList ∧
    start ++ String.ofList (rest.takeWhile (· != '/')) ++
      (if (rest.takeWhile (· != '/')).length < rest.length then "/" else "") = c := by
  unfold step?
  cases hrest : start.toList.isPrefixOf? o.toList with
  | none =>
      refine iff_of_false nofun ?_
      rintro ⟨rest, happend, _⟩
      rw [List.isPrefixOf?_eq_some_iff_append_eq.mpr happend] at hrest
      cases hrest
  | some rest =>
      have happend := List.isPrefixOf?_eq_some_iff_append_eq.mp hrest
      constructor
      · intro h
        exact ⟨rest, happend, Option.some.inj h⟩
      · rintro ⟨rest', happend', rfl⟩
        obtain rfl := List.append_cancel_left (happend.trans happend'.symm)
        rfl

/-- Behind what the keys below some components start with, a key goes on with its next component. -/
theorem step?_eq_some_iff (hns : ∀ n ∈ ns, separator ∉ n)
    (hstart : separator :: start.toList = branch ns ++ [separator]) :
    step? start o = some c ↔ ∃ n more, names o = ns ++ n :: more ∧
      start ++ String.ofList n ++ (if more = [] then "" else "/") = c := by
  have hfree : ∀ n ∈ names o, separator ∉ n := fun _ => separator_not_mem_of_mem_names
  have hcut : ∀ {rest : List Char}, start.toList ++ rest = o.toList ↔
      branch (names o) = branch ns ++ separator :: rest := by
    intro rest
    rw [branch_names, List.append_cons, ← hstart, List.cons_append, List.cons.injEq, eq_comm]
    exact (and_iff_right rfl).symm
  have hclosing : ∀ (n : List Char) (more : List (List Char)),
      (if n.length < (n ++ branch more).length then "/" else "") =
        if more = [] then "" else "/" := by
    intro n more
    cases more with
    | nil => rw [if_pos rfl, if_neg (by rw [List.length_append]; exact Nat.lt_irrefl _)]
    | cons m more =>
        rw [if_neg (List.cons_ne_nil m more), if_pos]
        rw [List.length_append, branch_cons, List.length_cons]
        omega
  rw [step?_eq_some]
  constructor
  · rintro ⟨rest, happend, hc⟩
    obtain ⟨k, _, htake, hdrop⟩ := branch_cut hfree (hcut.mp happend) rfl
    obtain rfl : ns = (names o).take k :=
      branch_inj hns (fun n hn => hfree n (List.mem_of_mem_take hn)) htake
    cases hmore : (names o).drop k with
    | nil =>
        rw [hmore] at hdrop
        cases hdrop
    | cons n more =>
        rw [hmore, branch_cons] at hdrop
        obtain rfl := (List.cons.inj hdrop).2
        have hn : separator ∉ n := hfree n (List.mem_of_mem_drop (hmore ▸ List.mem_cons_self))
        rw [takeWhile_branch hn, hclosing] at hc
        exact ⟨n, more, by rw [← hmore, List.take_append_drop], hc⟩
  · rintro ⟨n, more, hnames, hc⟩
    have hn : separator ∉ n := hfree n
      (hnames ▸ List.mem_append_right ns List.mem_cons_self)
    refine ⟨n ++ branch more, hcut.mpr ?_, ?_⟩
    · rw [hnames, branch_append, branch_cons]
    · rw [takeWhile_branch hn, hclosing]
      exact hc

/-- **What a listing is made of is what the keys go on with.** -/
theorem listed_iff_step? (hkeys : ∀ k ∈ keys, IsKey k) (hns : ∀ n ∈ ns, IsName n) :
    Listed keys (keyStart (idOf ns)) c ↔
      ∃ o ∈ keys, step? (keyStart (idOf ns)) o = some c := by
  have hstep := fun o => step?_eq_some_iff (o := o) (c := c) (fun n hn => (hns n hn).2)
    (toList_keyStart_idOf hns)
  constructor
  · intro h
    cases h with
    | @object n hn hkey =>
        refine ⟨_, hkey, (hstep _).mpr ⟨n, [], ?_, ?_⟩⟩
        · rw [keyStart_append hns hn, names_key_idOf (isName_concat hns hn) (concat_ne_nil ns n)]
        · rw [if_pos rfl, String.append_empty]
    | @folder n o hn ho hbelow =>
        have hmore := isName_concat hns hn
        have hne := concat_ne_nil ns n
        rw [keyStart_append hns hn, below_iff_names (isKey_key_idOf hmore hne) (hkeys o ho),
          names_key_idOf hmore hne] at hbelow
        obtain ⟨⟨more, hnames⟩, hlonger⟩ := hbelow
        refine ⟨o, ho, (hstep o).mpr ⟨n, more, ?_, ?_⟩⟩
        · rw [← hnames, List.append_assoc, List.singleton_append]
        · rw [if_neg]
          rintro rfl
          exact hlonger ((List.append_nil _).symm.trans hnames)
  · rintro ⟨o, ho, hc⟩
    obtain ⟨n, more, hnames, rfl⟩ := (hstep o).mp hc
    have hn : IsName n := (hkeys o ho).isName n
      (hnames ▸ List.mem_append_right ns List.mem_cons_self)
    have hmore := isName_concat hns hn
    have hne := concat_ne_nil ns n
    have hbegins : names o = ns ++ [n] ++ more := by
      rw [hnames, List.append_assoc, List.singleton_append]
    cases more with
    | nil =>
        rw [if_pos rfl, String.append_empty]
        refine .object hn ?_
        rw [keyStart_append hns hn]
        rw [List.append_nil] at hbegins
        rw [← hbegins, key_idOf_names (hkeys o ho)]
        exact ho
    | cons m more =>
        rw [if_neg (List.cons_ne_nil m more)]
        refine .folder hn ho ?_
        rw [keyStart_append hns hn, below_iff_names (isKey_key_idOf hmore hne) (hkeys o ho),
          names_key_idOf hmore hne, hbegins]
        exact ⟨List.prefix_append _ _, fun heq =>
          List.cons_ne_nil m more (List.self_eq_append_right.mp heq)⟩

/-! ## Tables as services -/

/-- The status of a key that is taken for what it is. -/
theorem status_of_isKey (hk : IsKey k) (hnormal : normalKey k = k) :
    t.status k = match t.get? k with
      | some bytes => .ok ⟨false, UInt64.ofNat bytes.size, none⟩
      | none => .error notFound := by
  unfold ObjectTable.status
  dsimp only
  rewrite [hnormal, hk.asksBelow_eq, if_neg Bool.false_ne_true]
  rfl

/-- The status of what stands for the keys that continue a key. -/
theorem status_of_isFolder (h : IsFolder (tableKeys t) k) (hnormal : normalKey (k ++ "/") = k ++ "/") :
    t.status (k ++ "/") = .ok ⟨true, 0, none⟩ := by
  obtain ⟨hk, o, ho, hbelow⟩ := h
  have hbegins : t.objects.any (fun o => (k ++ "/").toList.isPrefixOf o.1.toList) = true := by
    obtain ⟨entry, hentry, rfl⟩ := List.mem_map.mp ho
    refine List.any_eq_true.mpr ⟨entry, hentry, List.isPrefixOf_iff_prefix.mpr ?_⟩
    have hstem := (below_iff.mp hbelow).1
    rw [stem_toList, hk.trimEnd_eq] at hstem
    rw [String.toList_append]
    exact hstem
  unfold ObjectTable.status
  dsimp only
  rw [hnormal, asksBelow_append, if_pos rfl, hbegins, Bool.or_true, if_pos rfl]

/-- What is listed where some keys go on. -/
theorem list_eq (hns : ∀ n ∈ ns, IsName n) (hkeys : ∀ k ∈ tableKeys t, IsKey k)
    (hnormal : normalKey (keyStart (idOf ns)) = keyStart (idOf ns)) :
    c ∈ t.list (keyStart (idOf ns)) ↔ Listed (tableKeys t) (keyStart (idOf ns)) c := by
  rw [listed_iff_step? hkeys hns, ObjectTable.list, List.mem_eraseDups, List.mem_filterMap, hnormal]
  constructor
  · rintro ⟨entry, hentry, hstep⟩
    exact ⟨entry.1, List.mem_map_of_mem hentry, hstep⟩
  · rintro ⟨o, ho, hstep⟩
    obtain ⟨entry, hentry, rfl⟩ := List.mem_map.mp ho
    exact ⟨entry, hentry, hstep⟩

/-- The table takes its keys, and those of the folders above them, for what they are. -/
def Plain (t : ObjectTable) : Prop :=
  ∀ o ∈ tableKeys t, ∀ cs ∈ o.toList.inits, IsKey (String.ofList cs) →
    String.ofList cs = o ∨ Path.below (String.ofList cs) o = true →
      normalKey (String.ofList cs) = String.ofList cs ∧
        normalKey (String.ofList cs ++ "/") = String.ofList cs ++ "/"

instance (t : ObjectTable) : Decidable (Plain t) :=
  inferInstanceAs (Decidable (∀ o ∈ tableKeys t, ∀ cs ∈ o.toList.inits, IsKey (String.ofList cs) →
    String.ofList cs = o ∨ Path.below (String.ofList cs) o = true → _))

theorem Plain.object (h : Plain t) (hkeys : ∀ k ∈ tableKeys t, IsKey k) (hk : k ∈ tableKeys t) :
    normalKey k = k := by
  have hself := h k hk k.toList ((List.mem_inits _ _).mpr (List.prefix_refl _))
  rw [String.ofList_toList] at hself
  exact (hself (hkeys k hk) (Or.inl rfl)).1

theorem Plain.folder (h : Plain t) (hfolder : IsFolder (tableKeys t) k) :
    normalKey k = k ∧ normalKey (k ++ "/") = k ++ "/" := by
  obtain ⟨hk, o, ho, hbelow⟩ := hfolder
  have hbegins := (below_iff.mp hbelow).1
  rw [stem_toList, hk.trimEnd_eq] at hbegins
  have habove := h o ho k.toList
    ((List.mem_inits _ _).mpr ((List.prefix_append _ _).trans hbegins))
  rw [String.ofList_toList] at habove
  exact habove hk (Or.inr hbelow)

/-- **A table says of its keys what a service has to say**, if it takes them for what they are. -/
theorem ofTable_presents (hkeys : ∀ k ∈ tableKeys t, IsKey k) (hplain : Plain t) :
    (ofTable t : ObjectService Id).Presents (tableKeys t) where
  object := by
    intro k hk
    obtain ⟨bytes, hbytes⟩ := Option.isSome_iff_exists.mp (get?_isSome.mpr hk)
    refine ⟨⟨false, UInt64.ofNat bytes.size, none⟩, ?_, rfl⟩
    have hstatus := status_of_isKey (t := t) (hkeys k hk) (hplain.object hkeys hk)
    rw [hbytes] at hstatus
    exact congrArg Action.ofResult hstatus
  missing := by
    intro k hfolder hk
    have hnone : t.get? k = none :=
      Option.not_isSome_iff_eq_none.mp (fun hsome => hk (get?_isSome.mp hsome))
    refine ⟨notFound, ?_, rfl⟩
    have hstatus := status_of_isKey (t := t) hfolder.1 (hplain.folder hfolder).1
    rw [hnone] at hstatus
    exact congrArg Action.ofResult hstatus
  folder := by
    intro k hfolder
    refine ⟨⟨true, 0, none⟩, ?_, rfl⟩
    exact congrArg Action.ofResult (status_of_isFolder hfolder (hplain.folder hfolder).2)
  listed := by
    intro k hk
    -- the components of the prefix, of which the root has none
    obtain ⟨ns, hns, hstart, hnormal⟩ : ∃ ns : List (List Char), (∀ n ∈ ns, IsName n) ∧
        keyStart (idOf ns) = startOf k ∧ normalKey (startOf k) = startOf k := by
      rcases hk with rfl | hfolder
      · exact ⟨[], nofun, rfl, by decide +kernel⟩
      · have hstart : startOf k = k ++ "/" := if_neg (fun hempty =>
          hfolder.1.ne_empty (String.isEmpty_iff.mp hempty))
        refine ⟨names k, hfolder.1.isName, congrArg startOf (key_idOf_names hfolder.1), ?_⟩
        rw [hstart]
        exact (hplain.folder hfolder).2
    rw [← hstart] at hnormal ⊢
    exact ⟨_, rfl, fun c => (list_eq hns hkeys hnormal).mpr,
      fun c hc => Or.inl ((list_eq hns hkeys hnormal).mp hc)⟩

end Harvest.ObjectService
