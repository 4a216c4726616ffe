import Harvest.FileTree
import Harvest.Proofs.Components
import Harvest.Store.Directory

/-!
# Directories are not left

An identifier is text, and whoever can name an entry of a directory must not be able to name a file
outside of it. What a path means is settled by its pieces between separators: empty ones and `.` stand
still, `..` leads up, all others lead down by one step. `resolve_confined` says that a store follows
the steps of an identifier from its root, that nothing else decides where they end, and that an
identifier with a step upwards is refused, even where it would come down again.

Separators in a row only make empty pieces, so trimming an identifier at either end takes away pieces
that stand still (`parts_trimStart`, `parts_trimEnd`). That is why the names which listings join to an
identifier lead one step further, whatever separators the identifier ends in.
-/

namespace Harvest.DirectoryStore

open FileTree (parts)

variable {cs : List Char} {id path part name : String}

/-! ## Pieces -/

/-- The pieces of a text are those in front of a separator and those behind it. -/
theorem parts_append (as bs : List Char) :
    parts (String.ofList (as ++ Path.separator :: bs)) =
      parts (String.ofList as) ++ parts (String.ofList bs) := by
  unfold FileTree.parts Path.split
  rw [String.toList_ofList, String.toList_ofList, String.toList_ofList,
    List.splitOn_append_cons_self, List.map_append]

theorem parts_nil : parts (String.ofList []) = [""] := rfl

/-- A text without separators is one piece. -/
theorem parts_of_not_mem (h : Path.separator ∉ name.toList) : parts name = [name] := by
  unfold FileTree.parts Path.split
  rw [List.splitOn_eq_singleton h, List.map_singleton, String.ofList_toList]

theorem parts_separators (n : Nat) :
    parts (String.ofList (List.replicate n Path.separator)) = List.replicate (n + 1) "" := by
  induction n with
  | zero => exact parts_nil
  | succ n ih =>
      have hfirst := parts_append [] (List.replicate n Path.separator)
      rw [List.nil_append, parts_nil, ih] at hfirst
      exact hfirst

/-- What is trimmed at the beginning is separators. -/
theorem eq_replicate_trimStart (cs : List Char) :
    ∃ n, cs = List.replicate n Path.separator ++ Path.trimStart cs := by
  refine ⟨(cs.takeWhile (· == Path.separator)).length, ?_⟩
  have hall : cs.takeWhile (· == Path.separator) =
      List.replicate (cs.takeWhile (· == Path.separator)).length Path.separator :=
    List.eq_replicate_of_mem
      (fun _ hc => beq_iff_eq.mp (List.mem_takeWhile_imp (p := (· == Path.separator)) hc))
  rw [← hall, Path.trimStart, List.takeWhile_append_dropWhile]

/-- What is trimmed at the end is separators. -/
theorem eq_trimEnd_replicate (cs : List Char) :
    ∃ n, cs = Path.trimEnd cs ++ List.replicate n Path.separator := by
  obtain ⟨n, hn⟩ := eq_replicate_trimStart cs.reverse
  refine ⟨n, ?_⟩
  have hback := congrArg List.reverse hn
  rwa [List.reverse_reverse, List.reverse_append, List.reverse_replicate] at hback

/-- Trimming the beginning takes away empty pieces only. -/
theorem parts_trimStart (cs : List Char) :
    ∃ n, parts (String.ofList cs) =
      List.replicate n "" ++ parts (String.ofList (Path.trimStart cs)) := by
  obtain ⟨n, hn⟩ := eq_replicate_trimStart cs
  refine ⟨n, ?_⟩
  conv => lhs; rw [hn]
  cases n with
  | zero => rfl
  | succ n =>
      rw [List.replicate_succ', List.append_assoc, List.singleton_append, parts_append,
        parts_separators]

/-- Trimming the end takes away empty pieces only. -/
theorem parts_trimEnd (cs : List Char) :
    ∃ n, parts (String.ofList cs) =
      parts (String.ofList (Path.trimEnd cs)) ++ List.replicate n "" := by
  obtain ⟨n, hn⟩ := eq_trimEnd_replicate cs
  refine ⟨n, ?_⟩
  conv => lhs; rw [hn]
  cases n with
  | zero => rw [List.replicate_zero, List.replicate_zero, List.append_nil, List.append_nil]
  | succ n => rw [List.replicate_succ, parts_append, parts_separators]

/-! ## Steps -/

/-- Whether a piece leads somewhere. -/
def leads (part : String) : Bool := part != "" && part != "."

/-- The pieces of a path that lead somewhere, in order. -/
def steps (path : String) : List String := (parts path).filter leads

theorem filter_leads_replicate (n : Nat) : (List.replicate n "").filter leads = [] :=
  List.filter_replicate_of_neg (by decide)

theorem steps_append (as bs : List Char) :
    steps (String.ofList (as ++ Path.separator :: bs)) =
      steps (String.ofList as) ++ steps (String.ofList bs) := by
  rw [steps, parts_append, List.filter_append]
  rfl

theorem steps_trimStart (cs : List Char) :
    steps (String.ofList (Path.trimStart cs)) = steps (String.ofList cs) := by
  obtain ⟨n, hn⟩ := parts_trimStart cs
  rw [steps, steps, hn, List.filter_append, filter_leads_replicate, List.nil_append]

theorem steps_trimEnd (cs : List Char) :
    steps (String.ofList (Path.trimEnd cs)) = steps (String.ofList cs) := by
  obtain ⟨n, hn⟩ := parts_trimEnd cs
  rw [steps, steps, hn, List.filter_append, filter_leads_replicate, List.append_nil]

/-- Pieces that are not empty are not trimmed away. -/
theorem mem_parts_trimStart (hpart : part ≠ "") (cs : List Char) :
    part ∈ parts (String.ofList (Path.trimStart cs)) ↔ part ∈ parts (String.ofList cs) := by
  obtain ⟨n, hn⟩ := parts_trimStart cs
  rw [hn, List.mem_append]
  exact ⟨.inr, fun h => h.resolve_left (fun hmem => hpart (List.eq_of_mem_replicate hmem))⟩

theorem mem_parts_trimEnd (hpart : part ≠ "") (cs : List Char) :
    part ∈ parts (String.ofList (Path.trimEnd cs)) ↔ part ∈ parts (String.ofList cs) := by
  obtain ⟨n, hn⟩ := parts_trimEnd cs
  rw [hn, List.mem_append]
  exact ⟨.inl, fun h => h.resolve_right (fun hmem => hpart (List.eq_of_mem_replicate hmem))⟩

/-! ## Names joined to identifiers -/

/-- A text that names one entry of a directory. -/
structure IsStep (name : String) : Prop where
  ne_empty : name ≠ ""
  ne_here : name ≠ "."
  ne_up : name ≠ ".."
  separator_not_mem : Path.separator ∉ name.toList

theorem join_eq (hname : Path.separator ∉ name.toList) (id : String) :
    Path.join id name =
      String.ofList (Path.trimEnd id.toList ++ Path.separator :: name.toList) := by
  rw [Path.join, Path.trim_name hname]

theorem steps_of_isStep (h : IsStep name) : steps name = [name] := by
  rw [steps, parts_of_not_mem h.separator_not_mem]
  refine List.filter_eq_self.mpr (fun part hpart => ?_)
  obtain rfl := List.mem_singleton.mp hpart
  exact Bool.and_eq_true_iff.mpr ⟨bne_iff_ne.mpr h.ne_empty, bne_iff_ne.mpr h.ne_here⟩

/-- A name that is joined is one step more. -/
theorem steps_joinId (h : IsStep name) (id : String) :
    steps (Path.join id name) = steps id ++ [name] := by
  rw [join_eq h.separator_not_mem, steps_append, steps_trimEnd, String.ofList_toList,
    String.ofList_toList, steps_of_isStep h]

theorem up_mem_parts_joinId (h : IsStep name) (id : String) :
    ".." ∈ parts (Path.join id name) ↔ ".." ∈ parts id := by
  rw [join_eq h.separator_not_mem, parts_append, List.mem_append, mem_parts_trimEnd (by decide),
    String.ofList_toList, String.ofList_toList, parts_of_not_mem h.separator_not_mem]
  exact ⟨fun hup => hup.resolve_right (fun hmem => h.ne_up (List.mem_singleton.mp hmem).symm), .inl⟩

/-! ## Paths below the root -/

/-- A path followed by a part begins with the path, and takes the steps of both. -/
theorem join_extends (path part : String) :
    path.toList <+: (FileSystem.join path part).toList ∧
      steps (FileSystem.join path part) = steps path ++ steps part := by
  have hpart : part = String.ofList part.toList := String.ofList_toList.symm
  unfold FileSystem.join
  split
  · rename_i hempty
    obtain rfl : path = "" := String.toList_eq_nil_iff.mp (List.reverse_eq_nil_iff.mp hempty)
    exact ⟨List.nil_prefix, rfl⟩
  · -- the path ends in a separator, behind which there is one more empty piece
    rename_i rest hends
    have hpath : path.toList = rest.reverse ++ [Path.separator] := by
      rw [← List.reverse_reverse path.toList, hends, List.reverse_cons]
      rfl
    have hjoined : path ++ part =
        String.ofList (rest.reverse ++ Path.separator :: part.toList) := by
      rw [List.append_cons, ← hpath, ← String.toList_append, String.ofList_toList]
    have halone : path = String.ofList (rest.reverse ++ Path.separator :: []) := by
      rw [← hpath, String.ofList_toList]
    refine ⟨⟨part.toList, String.toList_append.symm⟩, ?_⟩
    rw [hjoined, halone, steps_append, steps_append, String.ofList_toList]
    exact congrArg (· ++ steps part) (List.append_nil _).symm
  · have hjoined : path ++ "/" ++ part =
        String.ofList (path.toList ++ Path.separator :: part.toList) := by
      rw [← String.ofList_toList (s := path ++ "/" ++ part), String.toList_append,
        String.toList_append, List.append_assoc]
      rfl
    refine ⟨⟨"/".toList ++ part.toList, ?_⟩, ?_⟩
    · rw [String.toList_append, String.toList_append, List.append_assoc]
    · rw [hjoined, steps_append, String.ofList_toList, String.ofList_toList]

/-- Following steps one by one. -/
theorem foldl_join_extends : ∀ (names : List String) (root : String),
    (∀ n ∈ names, steps n = [n]) →
      root.toList <+: (names.foldl FileSystem.join root).toList ∧
        steps (names.foldl FileSystem.join root) = steps root ++ names
  | [], root, _ => ⟨List.prefix_rfl, (List.append_nil _).symm⟩
  | n :: names, root, h => by
      obtain ⟨hstart, hsteps⟩ := join_extends root n
      obtain ⟨hstarts, hall⟩ := foldl_join_extends names (FileSystem.join root n)
        (fun m hm => h m (List.mem_cons_of_mem n hm))
      refine ⟨hstart.trans hstarts, ?_⟩
      rw [List.foldl_cons, hall, hsteps, h n List.mem_cons_self, List.append_assoc,
        List.singleton_append]

/-- Each step of an identifier is a step by itself. -/
theorem steps_of_mem_steps (h : part ∈ steps id) : steps part = [part] := by
  obtain ⟨hmem, hleads⟩ := List.mem_filter.mp h
  obtain ⟨piece, hpiece, rfl⟩ := List.mem_map.mp hmem
  have hsep : Path.separator ∉ (String.ofList piece).toList := by
    rw [String.toList_ofList]
    exact Path.separator_not_mem_of_mem_split hpiece
  rw [steps, parts_of_not_mem hsep]
  exact List.filter_eq_self.mpr (fun _ hp => List.mem_singleton.mp hp ▸ hleads)

/-! ## Identifiers -/

/-- What an identifier comes to: an upward step makes it useless, and otherwise its steps count. -/
theorem components?_eq (id : String) :
    components? id = if ".." ∈ parts id then none else some (steps id) := by
  have hid : parts (String.ofList (Path.trimStart id.toList)) =
      (Path.split (Path.trimStart id.toList)).map String.ofList := by
    rw [FileTree.parts, String.toList_ofList]
  have hne : ".." ≠ "" := by decide
  have hup := mem_parts_trimStart hne id.toList
  have hsteps := steps_trimStart id.toList
  rw [String.ofList_toList] at hup hsteps
  rw [← hsteps, steps, components?, ← hid]
  by_cases h : ".." ∈ parts id
  · rw [if_pos h, if_pos (List.contains_iff_mem.mpr (hup.mpr h))]
  · rw [if_neg h, if_neg (fun hin => h (hup.mp (List.contains_iff_mem.mp hin)))]
    rfl

variable {d : DirectoryStore} {f : Failure}

theorem resolve_eq (d : DirectoryStore) (id : String) :
    d.resolve id =
      if ".." ∈ parts id then .error (escapes id) else .ok ((steps id).foldl FileSystem.join d.root) := by
  rw [resolve, components?_eq]
  by_cases h : ".." ∈ parts id
  · rw [if_pos h, if_pos h]
  · rw [if_neg h, if_neg h]

theorem resolve_eq_ok : d.resolve id = .ok path ↔
    ".." ∉ parts id ∧ path = (steps id).foldl FileSystem.join d.root := by
  rw [resolve_eq]
  by_cases h : ".." ∈ parts id
  · rw [if_pos h]
    exact iff_of_false nofun (fun hok => hok.1 h)
  · rw [if_neg h]
    exact ⟨fun hok => ⟨h, (Except.ok.inj hok).symm⟩, fun hok => congrArg Except.ok hok.2.symm⟩

theorem resolve_eq_error : d.resolve id = .error f ↔ ".." ∈ parts id ∧ f = escapes id := by
  rw [resolve_eq]
  by_cases h : ".." ∈ parts id
  · rw [if_pos h]
    exact ⟨fun herror => ⟨h, (Except.error.inj herror).symm⟩,
      fun herror => congrArg Except.error herror.2.symm⟩
  · rw [if_neg h]
    exact iff_of_false nofun (fun herror => h herror.1)

/-- An identifier is refused only for a step upwards. -/
theorem exists_resolve_eq_error (d : DirectoryStore) (id : String) :
    (∃ f, d.resolve id = .error f) ↔ ".." ∈ parts id :=
  ⟨fun ⟨_, herror⟩ => (resolve_eq_error.mp herror).1,
    fun h => ⟨escapes id, resolve_eq_error.mpr ⟨h, rfl⟩⟩⟩

/-- **No identifier leads out of a directory.** It is refused, as what is not permitted and so is
skipped, if one of its pieces leads upwards. Otherwise its path is the root followed by its steps,
in order, and by nothing else. A name that is joined to an identifier is one step more. -/
theorem resolve_confined (d : DirectoryStore) (id name : String) :
    ((∃ f, d.resolve id = .error f) ↔ ".." ∈ parts id) ∧
    (∀ f, d.resolve id = .error f →
      (∃ text, f = .of (.system .permissionDenied text)) ∧
        (Signature.ofFailure f).code = some .permissionDenied ∧
        (Signature.ofFailure f).faultClass = .skip) ∧
    (∀ path, d.resolve id = .ok path →
      path = (steps id).foldl FileSystem.join d.root ∧
        d.root.toList <+: path.toList ∧ steps path = steps d.root ++ steps id) ∧
    (IsStep name →
      (∀ path, d.resolve id = .ok path →
        d.resolve (Path.join id name) = .ok (FileSystem.join path name)) ∧
      ((∃ f, d.resolve (Path.join id name) = .error f) ↔ ∃ f, d.resolve id = .error f)) := by
  refine ⟨exists_resolve_eq_error d id, ?_, ?_, ?_⟩
  · intro f hf
    obtain ⟨_, rfl⟩ := resolve_eq_error.mp hf
    exact ⟨⟨_, rfl⟩, rfl, rfl⟩
  · intro path hpath
    obtain ⟨_, rfl⟩ := resolve_eq_ok.mp hpath
    exact ⟨rfl, foldl_join_extends (steps id) d.root (fun _ hn => steps_of_mem_steps hn)⟩
  · intro hname
    have hup := up_mem_parts_joinId hname id
    refine ⟨?_, ?_⟩
    · intro path hpath
      obtain ⟨hin, rfl⟩ := resolve_eq_ok.mp hpath
      refine resolve_eq_ok.mpr ⟨fun h => hin (hup.mp h), ?_⟩
      rw [steps_joinId hname, List.foldl_append, List.foldl_cons, List.foldl_nil]
    · rw [exists_resolve_eq_error, exists_resolve_eq_error, hup]

/-- Dots within a name lead nowhere, and the identifier of the container may end in separators. -/
theorem resolve_confined_share :
    (DirectoryStore.mk "/srv/share" false).resolve "//a././/" = .ok "/srv/share/a." ∧
    (DirectoryStore.mk "/srv/share" false).resolve (Path.join "//a././/" "..b") =
      .ok "/srv/share/a./..b" ∧
    ∃ f, (DirectoryStore.mk "/srv/share" false).resolve "/a/../b" = .error f ∧
      (Signature.ofFailure f).faultClass = .skip := by
  have hpath : (DirectoryStore.mk "/srv/share" false).resolve "//a././/" = .ok "/srv/share/a." := by
    decide +kernel
  have hjoin := ((resolve_confined ⟨"/srv/share", false⟩ "//a././/" "..b").2.2.2
    ⟨by decide, by decide, by decide, by decide +kernel⟩).1 _ hpath
  obtain ⟨hfails, hclass, _⟩ := resolve_confined ⟨"/srv/share", false⟩ "/a/../b" ""
  obtain ⟨f, hf⟩ := hfails.mpr (by decide +kernel)
  exact ⟨hpath, hjoin, f, hf, (hclass f hf).2.2⟩

end Harvest.DirectoryStore
