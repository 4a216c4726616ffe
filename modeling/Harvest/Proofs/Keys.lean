import Mathlib.Data.List.Infix
import Harvest.Proofs.Below
import Harvest.Proofs.Components
import Harvest.Proofs.Principals
import Harvest.Store.Objects

/-!
# Keys and the tree that they span

An object service has no directories, only keys. What lies below a key is made out from the keys that
continue it after a separator, and listings are turned back into identifiers by trimming. This module
says what comes of it in terms of the components of keys: an identifier with the components `ns` is
found below the one with all components but the last, if some key begins with `ns`
(`mem_childIds_of_lists`). So keys span the tree of their beginnings.
-/

namespace Harvest.ObjectService

open Harvest.Path

variable {k o id start child : String} {keys found : List String} {ms ns : List (List Char)}
  {n : List Char}

/-! ## Components -/

/-- The components of a key. -/
def names (k : String) : List (List Char) := split k.toList

/-- Keys have components that are not empty. -/
def IsKey (k : String) : Prop := ∀ n ∈ names k, n ≠ []

instance (k : String) : Decidable (IsKey k) := inferInstanceAs (Decidable (∀ n ∈ names k, n ≠ []))

/-- The identifier with the given components. -/
def idOf (ns : List (List Char)) : String := String.ofList (ofComponents ns)

theorem names_ne_nil (k : String) : names k ≠ [] := List.splitOn_ne_nil _ _

theorem separator_not_mem_of_mem_names (hn : n ∈ names k) : separator ∉ n :=
  separator_not_mem_of_mem_split hn

theorem IsKey.isName (hk : IsKey k) : ∀ n ∈ names k, IsName n :=
  fun n hn => ⟨hk n hn, separator_not_mem_of_mem_names hn⟩

theorem branch_names (k : String) : branch (names k) = separator :: k.toList := branch_split _

/-- A key is known by its components. -/
theorem names_inj : names k = names o ↔ k = o := by
  constructor
  · intro h
    have hbranch := congrArg branch h
    rw [branch_names, branch_names] at hbranch
    exact String.toList_inj.mp (List.cons.inj hbranch).2
  · exact congrArg names

/-- What is read in one way by its components. -/
theorem eq_of_branch (hns : ∀ n ∈ ns, IsName n) (h : separator :: k.toList = branch ns) :
    names k = ns := by
  rw [← branch_names] at h
  exact branch_inj (fun _ => separator_not_mem_of_mem_names) (fun n hn => (hns n hn).2) h

theorem toList_idOf (hne : ns ≠ []) : (idOf ns).toList = branch ns := by
  rw [idOf, String.toList_ofList, ofComponents, if_neg hne]

/-- The identifier of an object. -/
theorem idOf_names (k : String) : idOf (names k) = "/" ++ k := by
  rw [← String.toList_inj, toList_idOf (names_ne_nil k), branch_names, String.toList_append]
  rfl

/-! ## Keys of identifiers -/

/-- What has nothing to be trimmed at its end has nothing there without its first character. -/
theorem trimEnd_of_cons {c : Char} {cs : List Char} (h : trimEnd (c :: cs) = c :: cs) :
    trimEnd cs = cs := by
  refine List.rdropWhile_eq_self_iff.mpr (fun hne hlast => ?_)
  refine List.rdropWhile_eq_self_iff.mp h (List.cons_ne_nil c cs) ?_
  rwa [List.getLast_cons hne]

/-- Of a branch of names, the first separator is all that is trimmed. -/
theorem trim_branch (hns : ∀ n ∈ ns, IsName n) (hne : ns ≠ []) :
    separator :: trim (branch ns) = branch ns := by
  obtain ⟨m, ms, rfl⟩ := List.exists_cons_of_ne_nil hne
  obtain ⟨hm, hfree⟩ := hns m List.mem_cons_self
  obtain ⟨c, cs, rfl⟩ := List.exists_cons_of_ne_nil hm
  have hc : ¬ ((c == separator) = true) := by
    intro heq
    obtain rfl := beq_iff_eq.mp heq
    exact hfree List.mem_cons_self
  have hfirst : trimStart (branch ((c :: cs) :: ms)) = trimStart (c :: cs ++ branch ms) := rfl
  have hstart : trimStart (c :: cs ++ branch ms) = c :: cs ++ branch ms :=
    List.dropWhile_cons_of_neg hc
  have hend := trimEnd_branch hns
  rw [branch_cons] at hend ⊢
  rw [branch_cons] at hfirst
  rw [trim, hfirst, hstart, trimEnd_of_cons hend]

theorem key_idOf_nil : key (idOf []) = "" := rfl

theorem toList_key_idOf (hns : ∀ n ∈ ns, IsName n) (hne : ns ≠ []) :
    separator :: (key (idOf ns)).toList = branch ns := by
  rw [key, String.toList_ofList, toList_idOf hne, trim_branch hns hne]

/-- The key of an identifier has its components. -/
theorem names_key_idOf (hns : ∀ n ∈ ns, IsName n) (hne : ns ≠ []) : names (key (idOf ns)) = ns :=
  eq_of_branch hns (toList_key_idOf hns hne)

theorem key_idOf_names (hk : IsKey k) : key (idOf (names k)) = k :=
  names_inj.mp (names_key_idOf hk.isName (names_ne_nil k))

theorem isKey_key_idOf (hns : ∀ n ∈ ns, IsName n) (hne : ns ≠ []) : IsKey (key (idOf ns)) := by
  intro n hn
  rw [names_key_idOf hns hne] at hn
  exact (hns n hn).1

theorem IsKey.ne_empty (hk : IsKey k) : k ≠ "" := by
  rintro rfl
  exact hk [] List.mem_cons_self rfl

/-- What the keys below an identifier start with, behind a separator like its components. -/
theorem toList_keyStart_idOf (hns : ∀ n ∈ ns, IsName n) :
    separator :: (keyStart (idOf ns)).toList = branch ns ++ [separator] := by
  by_cases hne : ns = []
  · subst hne
    rfl
  · have hkey : ¬ ((key (idOf ns)).isEmpty = true) := fun hempty =>
      (isKey_key_idOf hns hne).ne_empty (String.isEmpty_iff.mp hempty)
    rw [keyStart, if_neg hkey, String.toList_append, ← List.cons_append, toList_key_idOf hns hne]
    rfl

theorem isName_concat (hns : ∀ n ∈ ns, IsName n) (hn : IsName n) : ∀ m ∈ ns ++ [n], IsName m :=
  List.forall_mem_append.mpr ⟨hns, List.forall_mem_singleton.mpr hn⟩

theorem concat_ne_nil (ns : List (List Char)) (n : List Char) : ns ++ [n] ≠ [] :=
  List.append_ne_nil_of_right_ne_nil ns (List.cons_ne_nil n [])

/-- One component more. -/
theorem keyStart_append (hns : ∀ n ∈ ns, IsName n) (hn : IsName n) :
    keyStart (idOf ns) ++ String.ofList n = key (idOf (ns ++ [n])) := by
  have hmore := isName_concat hns hn
  have hne := concat_ne_nil ns n
  refine String.toList_inj.mp (List.cons.inj (?_ : separator :: _ = separator :: _)).2
  rw [toList_key_idOf hmore hne, String.toList_append, ← List.cons_append,
    toList_keyStart_idOf hns, String.toList_ofList, branch_append]
  simp [branch]

/-- An identifier is the key behind a separator. -/
theorem append_key_idOf (hns : ∀ n ∈ ns, IsName n) (hne : ns ≠ []) :
    "/" ++ key (idOf ns) = idOf ns := by
  rw [← idOf_names, names_key_idOf hns hne]

/-- Keys have nothing to be trimmed. -/
theorem IsKey.trimEnd_eq (hk : IsKey k) : trimEnd k.toList = k.toList := by
  have hbranch := trimEnd_branch hk.isName
  rw [branch_names] at hbranch
  exact trimEnd_of_cons hbranch

/-- A separator behind a key is trimmed. -/
theorem IsKey.trimEnd_append (hk : IsKey k) : trimEnd (k ++ "/").toList = k.toList := by
  have hlast : trimEnd (k.toList ++ [separator]) = trimEnd k.toList :=
    List.rdropWhile_concat_pos (· == separator) k.toList separator rfl
  rw [String.toList_append]
  exact hlast.trans hk.trimEnd_eq

/-! ## Keys below keys -/

/-- A branch that goes on after another one has more components. -/
theorem branch_append_separator (hms : ∀ n ∈ ms, separator ∉ n) (hns : ∀ n ∈ ns, separator ∉ n) :
    branch ms ++ [separator] <+: branch ns ↔ ms <+: ns ∧ ms ≠ ns := by
  constructor
  · rintro ⟨rest, hrest⟩
    rw [List.append_assoc, List.singleton_append] at hrest
    obtain ⟨k, _, htake, hdrop⟩ := branch_cut hns hrest.symm rfl
    have hbegin : ms = ns.take k :=
      branch_inj hms (fun n hn => hns n (List.mem_of_mem_take hn)) htake
    refine ⟨hbegin ▸ List.take_prefix k ns, ?_⟩
    rintro rfl
    have hlength := congrArg List.length hrest
    rw [List.length_append, List.length_cons] at hlength
    omega
  · rintro ⟨⟨more, rfl⟩, hne⟩
    cases more with
    | nil => exact absurd (List.append_nil ms).symm hne
    | cons n more =>
        refine ⟨n ++ branch more, ?_⟩
        rw [branch_append, branch_cons, List.append_assoc, List.singleton_append]

/-- **A key lies below another one if it has more components and begins with those of the other.**
-/
theorem below_iff_names (hk : IsKey k) (ho : IsKey o) :
    Path.below k o = true ↔ names k <+: names o ∧ names k ≠ names o := by
  have hroot : o ≠ "/" := by
    rintro rfl
    exact ho [] List.mem_cons_self rfl
  rw [← branch_append_separator (fun _ => separator_not_mem_of_mem_names)
    (fun _ => separator_not_mem_of_mem_names), branch_names, branch_names, List.cons_append,
    List.prefix_cons_inj, below_iff, stem_toList, hk.trimEnd_eq]
  exact and_iff_left hroot

/-! ## Listings -/

/-- What a listing of the keys that start with `start` is made of: the objects directly below, and
what stands for the objects further down. -/
inductive Listed (keys : List String) (start : String) : String → Prop where
  | object {n : List Char} (hn : IsName n) (hkey : start ++ String.ofList n ∈ keys) :
      Listed keys start (start ++ String.ofList n)
  | folder {n : List Char} {o : String} (hn : IsName n) (ho : o ∈ keys)
      (hbelow : Path.below (start ++ String.ofList n) o = true) :
      Listed keys start (start ++ String.ofList n ++ "/")

theorem mem_childIds : id ∈ childIds start found ↔
    ∃ c ∈ found, ∃ k, k = String.ofList (trimEnd c.toList) ∧ k ≠ "" ∧ k ++ "/" ≠ start ∧
      id = "/" ++ k := by
  unfold childIds
  simp only [mem_eraseReps, List.mem_mergeSort, List.mem_map, List.mem_filter, Bool.and_eq_true,
    bne_iff_ne]
  constructor
  · rintro ⟨k, ⟨⟨c, hc, rfl⟩, hne, hstart⟩, rfl⟩
    exact ⟨c, hc, _, rfl, hne, hstart, rfl⟩
  · rintro ⟨c, hc, k, rfl, hne, hstart, rfl⟩
    exact ⟨_, ⟨⟨c, hc, rfl⟩, hne, hstart⟩, rfl⟩

/-- What is listed leads one component further, to where some key leads. -/
theorem Listed.leads (hkeys : ∀ k ∈ keys, IsKey k) (hns : ∀ n ∈ ns, IsName n) {c : String}
    (h : Listed keys (keyStart (idOf ns)) c) :
    ∃ n, IsName n ∧ String.ofList (trimEnd c.toList) = key (idOf (ns ++ [n])) ∧
      ∃ o ∈ keys, ns ++ [n] <+: names o := by
  cases h with
  | @object n hn hkey =>
      have hk := hkeys _ hkey
      rw [keyStart_append hns hn] at hkey hk ⊢
      refine ⟨n, hn, by rw [hk.trimEnd_eq, String.ofList_toList], _, hkey, ?_⟩
      rw [names_key_idOf (isName_concat hns hn) (concat_ne_nil ns n)]
  | @folder n o hn ho hbelow =>
      rw [keyStart_append hns hn] at hbelow ⊢
      have hk := isKey_key_idOf (isName_concat hns hn) (concat_ne_nil ns n)
      refine ⟨n, hn, by rw [hk.trimEnd_append, String.ofList_toList], o, ho, ?_⟩
      have hbegins := ((below_iff_names hk (hkeys o ho)).mp hbelow).1
      rwa [names_key_idOf (isName_concat hns hn) (concat_ne_nil ns n)] at hbegins

/-- Where some key leads, a listing leads. -/
theorem exists_listed (hkeys : ∀ k ∈ keys, IsKey k) (ho : o ∈ keys)
    (h : ns ++ [n] <+: names o) :
    ∃ c, Listed keys (keyStart (idOf ns)) c ∧
      String.ofList (trimEnd c.toList) = key (idOf (ns ++ [n])) := by
  have hmore : ∀ m ∈ ns ++ [n], IsName m := fun m hm => (hkeys o ho).isName m (h.subset hm)
  obtain ⟨hns, hn⟩ := List.forall_mem_append.mp hmore
  have hn : IsName n := hn n List.mem_cons_self
  have hne := concat_ne_nil ns n
  have hk := isKey_key_idOf hmore hne
  have hstart := keyStart_append hns hn
  by_cases heq : ns ++ [n] = names o
  · -- an object directly below
    have hkey : key (idOf (ns ++ [n])) = o := by rw [heq, key_idOf_names (hkeys o ho)]
    refine ⟨_, .object hn (by rwa [hstart, hkey]), ?_⟩
    rw [hstart, hk.trimEnd_eq, String.ofList_toList]
  · have hbelow : Path.below (key (idOf (ns ++ [n]))) o = true :=
      (below_iff_names hk (hkeys o ho)).mpr (by rw [names_key_idOf hmore hne]; exact ⟨h, heq⟩)
    refine ⟨_, .folder hn ho (by rwa [hstart]), ?_⟩
    rw [hstart, hk.trimEnd_append, String.ofList_toList]

/-- **The children of an identifier are one component longer, and some key begins with theirs.** A
listing may hold the prefix itself, which is left out. -/
theorem mem_childIds_of_lists (hkeys : ∀ k ∈ keys, IsKey k) (hns : ∀ n ∈ ns, IsName n)
    (hall : ∀ c, Listed keys (keyStart (idOf ns)) c → c ∈ found)
    (honly : ∀ c ∈ found, Listed keys (keyStart (idOf ns)) c ∨ c = key (idOf ns) ++ "/") :
    id ∈ childIds (keyStart (idOf ns)) found ↔
      ∃ n, id = idOf (ns ++ [n]) ∧ ∃ o ∈ keys, ns ++ [n] <+: names o := by
  rw [mem_childIds]
  constructor
  · rintro ⟨c, hc, k, rfl, hempty, hstart, rfl⟩
    rcases honly c hc with hlisted | rfl
    · obtain ⟨n, hn, hkey, hleads⟩ := hlisted.leads hkeys hns
      refine ⟨n, ?_, hleads⟩
      rw [hkey]
      exact append_key_idOf (isName_concat hns hn) (concat_ne_nil ns n)
    · by_cases hne : ns = []
      · subst hne
        exact absurd rfl hempty
      · have hk := isKey_key_idOf hns hne
        have hnot : ¬ ((key (idOf ns)).isEmpty = true) := fun h =>
          hk.ne_empty (String.isEmpty_iff.mp h)
        rw [hk.trimEnd_append, String.ofList_toList, keyStart, if_neg hnot] at hstart
        exact absurd rfl hstart
  · rintro ⟨n, rfl, o, ho, hleads⟩
    have hmore : ∀ m ∈ ns ++ [n], IsName m := fun m hm =>
      (hkeys o ho).isName m (hleads.subset hm)
    have hne := concat_ne_nil ns n
    obtain ⟨c, hc, hkey⟩ := exists_listed hkeys ho hleads
    refine ⟨c, hall c hc, _, hkey.symm, (isKey_key_idOf hmore hne).ne_empty, ?_,
      (append_key_idOf hmore hne).symm⟩
    -- the key is longer than what the keys below start with
    intro hsame
    have hlength := congrArg (fun s => s.toList.length) hsame
    rw [← keyStart_append hns (hmore n (List.mem_append_right ns List.mem_cons_self))] at hlength
    simp only [String.toList_append, List.length_append] at hlength
    have hone : "/".toList.length = 1 := rfl
    omega

/-! ## What a service says of its keys -/

/-- Some key continues this one. -/
def IsFolder (keys : List String) (k : String) : Prop :=
  IsKey k ∧ ∃ o ∈ keys, Path.below k o = true

/-- What the keys below a key start with. The empty key stands for the root. -/
def startOf (k : String) : String := if k.isEmpty then "" else k ++ "/"

/-- What the service says of objects with these keys, and of what continues them. -/
structure Presents (answers : ObjectService Id) (keys : List String) : Prop where
  /-- There is an object for each key, -/
  object : ∀ k ∈ keys, ∃ status, answers.status k = pure status ∧ status.isPrefix = false
  /-- and no object where keys only go on. -/
  missing : ∀ k, IsFolder keys k → k ∉ keys → ∃ f, answers.status k = throw f ∧ saysAbsent f = true
  /-- With a separator behind it, a key stands for those that continue it. -/
  folder : ∀ k, IsFolder keys k →
    ∃ status, answers.status (k ++ "/") = pure status ∧ status.isPrefix = true
  /-- A listing holds what lies directly below, and maybe the prefix itself. -/
  listed : ∀ k, k = "" ∨ IsFolder keys k → ∃ found, answers.list (startOf k) = pure found ∧
    (∀ c, Listed keys (startOf k) c → c ∈ found) ∧
    ∀ c ∈ found, Listed keys (startOf k) c ∨ c = k ++ "/"

end Harvest.ObjectService
