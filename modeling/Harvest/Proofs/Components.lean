import Mathlib.Data.List.DropRight
import Harvest.Proofs.Casing
import Harvest.Rule

/-!
# Paths and their components

What a scope covers is decided on characters: an anchor is trimmed, compared with the beginning of
an identifier, and the rest has to start with a separator. This module says what that means for the
components between the separators. Both texts are trimmed to components behind a separator each
(`branch_components_anchor`, `trimEnd_ofComponents`), and since no component holds a separator, such
a text can only be cut in front of a component (`branch_cut`) and is read in one way (`branch_inj`).
So the anchor of a scope is an entry with the same components (`Scope.isAnchor_ofComponents`), and
what lies below has more of them (`Scope.relative?_ofComponents`). The root has none, and everything
else lies below it.

Case is ignored in ASCII only, which leaves separators and lengths alone (`lower_trimEnd`).
-/

namespace Harvest.Path

variable {cs rest : List Char} {ms ns : List (List Char)} {n : List Char}

/-! ## Lowercase -/

/-- A text with the letters of ASCII in lowercase. -/
def lower (cs : List Char) : List Char := cs.map Char.toLower

theorem lower_append (cs ds : List Char) : lower (cs ++ ds) = lower cs ++ lower ds :=
  List.map_append

theorem toLower_eq_separator {c : Char} : c.toLower = separator ↔ c = separator :=
  Text.toLower_eq_iff (by decide)

theorem separator_mem_lower : separator ∈ lower cs ↔ separator ∈ cs := by
  unfold lower
  rw [List.mem_map]
  constructor
  · rintro ⟨c, hc, hsep⟩
    rwa [← toLower_eq_separator.mp hsep]
  · intro h
    exact ⟨separator, h, toLower_eq_separator.mpr rfl⟩

/-- To be the same up to case is to be the same in lowercase. -/
theorem same_iff : ∀ {as bs : List Char}, same as bs = true ↔ lower as = lower bs
  | [], [] => iff_of_true rfl rfl
  | [], b :: bs => iff_of_false nofun nofun
  | a :: as, [] => iff_of_false nofun nofun
  | a :: as, b :: bs => by
      have ih : same as bs = true ↔ lower as = lower bs := same_iff
      unfold lower at ih ⊢
      rw [same, sameLetter, Bool.and_eq_true, beq_iff_eq, ih, List.map_cons, List.map_cons,
        List.cons.injEq]

/-- What is left behind a beginning that is the same up to case. -/
theorem after?_eq_some : ∀ {start cs : List Char},
    after? start cs = some rest ↔ ∃ front, cs = front ++ rest ∧ lower front = lower start
  | [], cs => by
      constructor
      · intro h
        exact ⟨[], Option.some.inj h, rfl⟩
      · rintro ⟨front, rfl, hfront⟩
        obtain rfl := List.map_eq_nil_iff.mp hfront
        rfl
  | s :: start, [] => by
      refine iff_of_false nofun ?_
      rintro ⟨front, hnil, hfront⟩
      obtain ⟨rfl, _⟩ := List.append_eq_nil_iff.mp hnil.symm
      cases hfront
  | s :: start, c :: cs => by
      rw [after?]
      by_cases hletter : sameLetter s c = true
      · have hlower : c.toLower = s.toLower := (beq_iff_eq.mp hletter).symm
        rw [if_pos hletter, after?_eq_some]
        constructor
        · rintro ⟨front, rfl, hfront⟩
          refine ⟨c :: front, rfl, ?_⟩
          unfold lower at hfront ⊢
          rw [List.map_cons, List.map_cons, hlower, hfront]
        · rintro ⟨front, hcs, hfront⟩
          cases front with
          | nil => cases hfront
          | cons c' front =>
              exact ⟨front, (List.cons.inj hcs).2, (List.cons.inj hfront).2⟩
      · rw [if_neg hletter]
        refine iff_of_false nofun ?_
        rintro ⟨front, hcs, hfront⟩
        cases front with
        | nil => cases hfront
        | cons c' front =>
            obtain ⟨rfl, _⟩ := List.cons.inj hcs
            exact hletter (beq_iff_eq.mpr (List.cons.inj hfront).1.symm)

/-! ## Components -/

/-- Components behind a separator each. -/
def branch (names : List (List Char)) : List Char := names.flatMap (separator :: ·)

/-- The path of the given components; without any it is the root. -/
def ofComponents (names : List (List Char)) : List Char :=
  if names = [] then [separator] else branch names

/-- The components of a path: the pieces behind its first separator, of which the root has none.
Between two separators in a row is an empty piece. -/
def components (cs : List Char) : List (List Char) :=
  if cs.tail = [] then [] else split cs.tail

/-- Names are not empty and hold no separator. -/
def IsName (n : List Char) : Prop := n ≠ [] ∧ separator ∉ n

instance (n : List Char) : Decidable (IsName n) := inferInstanceAs (Decidable (_ ∧ _))

/-- Canonical paths have names for components. -/
def IsCanonical (cs : List Char) : Prop :=
  ∃ names, (∀ n ∈ names, IsName n) ∧ cs = ofComponents names

theorem branch_cons (n : List Char) (ns : List (List Char)) :
    branch (n :: ns) = separator :: (n ++ branch ns) := rfl

theorem branch_append (ms ns : List (List Char)) : branch (ms ++ ns) = branch ms ++ branch ns :=
  List.flatMap_append

theorem lower_branch (ns : List (List Char)) : lower (branch ns) = branch (ns.map lower) := by
  induction ns with
  | nil => rfl
  | cons n ns ih =>
      have hsep : separator.toLower = separator := toLower_eq_separator.mpr rfl
      rw [branch_cons, List.map_cons, branch_cons, ← ih, ← lower_append]
      unfold lower
      rw [List.map_cons, hsep]

/-- Behind its first separator, a branch is its components with a separator between each two. -/
theorem branch_eq_intercalate (n : List Char) (ns : List (List Char)) :
    branch (n :: ns) = separator :: [separator].intercalate (n :: ns) := by
  induction ns generalizing n with
  | nil => simp [branch]
  | cons m ns ih =>
      rw [branch_cons, ih, List.intercalate_cons_of_ne_nil (List.cons_ne_nil m ns),
        List.append_assoc, List.singleton_append]

theorem separator_not_mem_of_mem_split (h : n ∈ split cs) : separator ∉ n := by
  unfold split at h
  induction cs generalizing n with
  | nil =>
      obtain rfl := List.mem_singleton.mp h
      exact List.not_mem_nil
  | cons c cs ih =>
      rw [List.splitOn_cons_eq_if_modifyHead] at h
      by_cases hc : c = separator
      · rw [if_pos (beq_iff_eq.mpr hc)] at h
        rcases List.mem_cons.mp h with rfl | h
        · exact List.not_mem_nil
        · exact ih h
      · rw [if_neg (fun hsep => hc (beq_iff_eq.mp hsep))] at h
        cases hpieces : cs.splitOn separator with
        | nil => exact absurd hpieces (List.splitOn_ne_nil _ _)
        | cons m ms =>
            rw [hpieces, List.modifyHead_cons] at h
            rcases List.mem_cons.mp h with rfl | h
            · intro hmem
              rcases List.mem_cons.mp hmem with hsep | hmem
              · exact hc hsep.symm
              · exact ih (hpieces ▸ List.mem_cons_self) hmem
            · exact ih (hpieces ▸ List.mem_cons_of_mem m h)

theorem separator_not_mem_of_mem_components (h : n ∈ components cs) : separator ∉ n := by
  unfold components at h
  split at h
  · cases h
  · exact separator_not_mem_of_mem_split h

/-- Pieces behind a separator each make the text behind a separator. -/
theorem branch_split (cs : List Char) : branch (split cs) = separator :: cs := by
  have hjoined : [separator].intercalate (split cs) = cs := List.intercalate_splitOn separator
  cases hpieces : split cs with
  | nil => exact absurd hpieces (List.splitOn_ne_nil _ _)
  | cons n ns => rw [branch_eq_intercalate, ← hpieces, hjoined]

/-- A path that is more than a separator is the branch of its components. -/
theorem branch_components (hhead : cs.head? = some separator) (htail : cs.tail ≠ []) :
    branch (components cs) = cs := by
  rw [components, if_neg htail, branch_split]
  exact List.cons_head?_tail hhead

/-- **Branches are read in one way.** -/
theorem branch_inj : ∀ {ms ns : List (List Char)}, (∀ n ∈ ms, separator ∉ n) →
    (∀ n ∈ ns, separator ∉ n) → branch ms = branch ns → ms = ns
  | [], [], _, _, _ => rfl
  | [], n :: ns, _, _, h => by cases h
  | m :: ms, [], _, _, h => by cases h
  | m :: ms, n :: ns, hms, hns, h => by
      rw [branch_eq_intercalate, branch_eq_intercalate] at h
      have hsplit := congrArg (List.splitOn separator) (List.cons.inj h).2
      rwa [List.splitOn_intercalate separator hms (List.cons_ne_nil m ms),
        List.splitOn_intercalate separator hns (List.cons_ne_nil n ns)] at hsplit

/-- **Branches are cut in front of a component**, if what is cut off starts with a separator. -/
theorem branch_cut : ∀ {ns : List (List Char)} {front : List Char}, (∀ n ∈ ns, separator ∉ n) →
    branch ns = front ++ rest → rest.head? = some separator →
      ∃ k ≤ ns.length, front = branch (ns.take k) ∧ rest = branch (ns.drop k)
  | [], front, _, h, hrest => by
      obtain ⟨_, rfl⟩ := List.append_eq_nil_iff.mp h.symm
      cases hrest
  | n :: ns, [], _, h, _ => ⟨0, Nat.zero_le _, rfl, h.symm⟩
  | n :: ns, c :: front, hsep, h, hrest => by
      obtain ⟨rfl, hfollow⟩ := List.cons.inj h
      have hcut : ∀ {front' : List Char}, branch ns = front' ++ rest → front = n ++ front' →
          ∃ k ≤ (n :: ns).length, separator :: front = branch ((n :: ns).take k) ∧
            rest = branch ((n :: ns).drop k) := by
        intro front' hmore hfront
        obtain ⟨k, hk, htake, hdrop⟩ := branch_cut
          (fun m hm => hsep m (List.mem_cons_of_mem n hm)) hmore hrest
        refine ⟨k + 1, Nat.succ_le_succ hk, ?_, hdrop⟩
        rw [hfront, htake, List.take_succ_cons, branch_cons]
      rcases List.append_eq_append_iff.mp hfollow with ⟨more, rfl, hmore⟩ | ⟨more, hn, rfl⟩
      · exact hcut hmore rfl
      · cases more with
        | nil =>
            rw [List.append_nil] at hn
            exact hcut rfl (by rw [hn, List.append_nil])
        | cons c more =>
            -- a cut inside a component would leave a rest that starts with one of its characters
            obtain rfl : c = separator := Option.some.inj hrest
            exact absurd (hn ▸ List.mem_append_right front List.mem_cons_self)
              (hsep n List.mem_cons_self)

/-! ## Trimming -/

/-- A text whose last component is not empty has nothing to be trimmed. -/
theorem trimEnd_append_name (cs : List Char) (hn : IsName n) : trimEnd (cs ++ n) = cs ++ n := by
  obtain ⟨hne, hsep⟩ := hn
  obtain ⟨front, c, rfl⟩ := (List.eq_nil_or_concat' n).resolve_left hne
  have hc : ¬ ((c == separator) = true) := by
    intro heq
    obtain rfl := beq_iff_eq.mp heq
    exact hsep (List.mem_append_right front List.mem_cons_self)
  rw [← List.append_assoc]
  exact List.rdropWhile_concat_neg (· == separator) (cs ++ front) c hc

theorem trimEnd_branch (h : ∀ n ∈ ns, IsName n) : trimEnd (branch ns) = branch ns := by
  rcases List.eq_nil_or_concat' ns with rfl | ⟨init, n, rfl⟩
  · rfl
  · have hn := h n (List.mem_append_right init List.mem_cons_self)
    have hlast : branch [n] = [separator] ++ n := List.append_nil _
    rw [branch_append, hlast, ← List.append_assoc]
    exact trimEnd_append_name _ hn

theorem trimEnd_ofComponents (h : ∀ n ∈ ns, IsName n) :
    trimEnd (ofComponents ns) = branch ns := by
  unfold ofComponents
  by_cases hns : ns = []
  · rw [if_pos hns, hns]
    rfl
  · rw [if_neg hns, trimEnd_branch h]

theorem lower_trimEnd (cs : List Char) : lower (trimEnd cs) = trimEnd (lower cs) := by
  have hsame : ((· == separator) ∘ Char.toLower) = (· == separator) := by
    funext c
    rw [Bool.eq_iff_iff, Function.comp_apply, beq_iff_eq, beq_iff_eq, toLower_eq_separator]
  have hreverse : (cs.map Char.toLower).reverse = cs.reverse.map Char.toLower :=
    List.map_reverse.symm
  unfold lower trimEnd dropEnd
  rw [hreverse, List.dropWhile_map, hsame, List.map_reverse]

theorem anchor_of_nil (h : trimEnd cs = []) : anchor cs = [separator] := by
  unfold anchor
  rw [h]

theorem anchor_of_ne_nil (h : trimEnd cs ≠ []) : anchor cs = trimEnd cs := by
  unfold anchor
  split
  · rename_i hnil
    exact absurd hnil h
  · rfl

theorem trimEnd_trimEnd (cs : List Char) : trimEnd (trimEnd cs) = trimEnd cs :=
  List.rdropWhile_idempotent (· == separator) cs

theorem trimEnd_ne_separator (cs : List Char) : trimEnd cs ≠ [separator] := by
  intro h
  have htwice := trimEnd_trimEnd cs
  rw [h] at htwice
  cases htwice

theorem trimEnd_anchor (cs : List Char) : trimEnd (anchor cs) = trimEnd cs := by
  by_cases h : trimEnd cs = []
  · rw [anchor_of_nil h, h]
    rfl
  · rw [anchor_of_ne_nil h, trimEnd_trimEnd]

/-- Anchors are the same up to case if what is left of the texts without trailing separators is. -/
theorem lower_anchor_inj {as bs : List Char} :
    lower (anchor as) = lower (anchor bs) ↔ lower (trimEnd as) = lower (trimEnd bs) := by
  constructor
  · intro h
    have htrimmed := congrArg trimEnd h
    rwa [← lower_trimEnd, ← lower_trimEnd, trimEnd_anchor, trimEnd_anchor] at htrimmed
  · intro h
    by_cases has : trimEnd as = []
    · rw [has] at h
      have hbs : trimEnd bs = [] := List.map_eq_nil_iff.mp h.symm
      rw [anchor_of_nil has, anchor_of_nil hbs]
    · have hbs : trimEnd bs ≠ [] := by
        intro hnil
        rw [hnil] at h
        exact has (List.map_eq_nil_iff.mp h)
      rw [anchor_of_ne_nil has, anchor_of_ne_nil hbs, h]

/-- What is left of a path without trailing separators is the branch of the components of its
anchor. -/
theorem branch_components_anchor (hhead : cs.head? = some separator) :
    branch (components (anchor cs)) = trimEnd cs := by
  by_cases h : trimEnd cs = []
  · rw [anchor_of_nil h, h]
    rfl
  · obtain ⟨c, more, hcons⟩ := List.exists_cons_of_ne_nil h
    obtain ⟨cut, hcs⟩ : trimEnd cs <+: cs := List.rdropWhile_prefix (· == separator) cs
    rw [← hcs, hcons] at hhead
    obtain rfl : c = separator := Option.some.inj hhead
    have hmore : more ≠ [] := by
      rintro rfl
      exact trimEnd_ne_separator cs hcons
    rw [anchor_of_ne_nil h, hcons]
    exact branch_components rfl hmore

theorem components_ofComponents (h : ∀ n ∈ ns, IsName n) :
    components (ofComponents ns) = ns := by
  cases ns with
  | nil => rfl
  | cons n ns =>
      have htail : n ++ branch ns ≠ [] :=
        List.append_ne_nil_of_left_ne_nil (h n List.mem_cons_self).1 _
      rw [ofComponents, if_neg (List.cons_ne_nil n ns)]
      exact branch_inj (fun _ => separator_not_mem_of_mem_components) (fun m hm => (h m hm).2)
        (branch_components rfl htail)

/-! ## Branches up to case -/

theorem lower_branch_inj (hms : ∀ n ∈ ms, separator ∉ n) (hns : ∀ n ∈ ns, separator ∉ n) :
    lower (branch ms) = lower (branch ns) ↔ ms.map lower = ns.map lower := by
  have hfree : ∀ {ls : List (List Char)}, (∀ n ∈ ls, separator ∉ n) →
      ∀ n ∈ ls.map lower, separator ∉ n := by
    intro ls hls n hn
    obtain ⟨m, hm, rfl⟩ := List.mem_map.mp hn
    exact fun hmem => hls m hm (separator_mem_lower.mp hmem)
  rw [lower_branch, lower_branch]
  constructor
  · exact branch_inj (hfree hms) (hfree hns)
  · exact congrArg branch

/-- **A branch begins with another up to case if its components do.** The rest, if it starts with a
separator, is the branch of the other components. -/
theorem after?_branch (hms : ∀ n ∈ ms, separator ∉ n) (hns : ∀ n ∈ ns, separator ∉ n)
    (hrest : rest.head? = some separator) :
    after? (branch ms) (branch ns) = some rest ↔
      ms.map lower <+: ns.map lower ∧ rest = branch (ns.drop ms.length) := by
  rw [after?_eq_some]
  constructor
  · rintro ⟨front, hcut, hfront⟩
    obtain ⟨k, hk, rfl, rfl⟩ := branch_cut hns hcut hrest
    have htaken : (ns.take k).map lower = ms.map lower :=
      (lower_branch_inj (fun n hn => hns n (List.mem_of_mem_take hn)) hms).mp hfront
    have hlength : ms.length = k := by
      have hlengths := congrArg List.length htaken
      rw [List.length_map, List.length_map, List.length_take] at hlengths
      omega
    rw [hlength]
    refine ⟨?_, rfl⟩
    rw [← htaken, List.map_take]
    exact List.take_prefix k _
  · rintro ⟨hbegins, rfl⟩
    have htaken : (ns.take ms.length).map lower = ms.map lower := by
      have htake := List.prefix_iff_eq_take.mp hbegins
      rw [List.length_map] at htake
      rw [List.map_take, ← htake]
    refine ⟨branch (ns.take ms.length), ?_, ?_⟩
    · rw [← branch_append, List.take_append_drop]
    · rw [lower_branch, lower_branch, htaken]

/-! ## Joining -/

theorem trim_name (hsep : separator ∉ n) : trim n = n := by
  cases n with
  | nil => rfl
  | cons c cs =>
      have hc : ¬ ((c == separator) = true) := by
        intro heq
        obtain rfl := beq_iff_eq.mp heq
        exact hsep List.mem_cons_self
      have hstart : trimStart (c :: cs) = c :: cs := List.dropWhile_cons_of_neg hc
      rw [trim, hstart]
      exact trimEnd_append_name [] ⟨List.cons_ne_nil c cs, hsep⟩

theorem toList_join (parent : String) {name : String} (hsep : separator ∉ name.toList) :
    (join parent name).toList = trimEnd parent.toList ++ separator :: name.toList := by
  rw [join, String.toList_ofList, trim_name hsep]

/-- Each name that is joined is one component more. -/
theorem trimEnd_join (parent : String) {name : String} (hname : IsName name.toList) :
    trimEnd (join parent name).toList = trimEnd parent.toList ++ separator :: name.toList := by
  rw [toList_join parent hname.2, List.append_cons]
  exact trimEnd_append_name _ hname

theorem trimEnd_foldl_join : ∀ {names : List String} (parent : String),
    (∀ n ∈ names, IsName n.toList) →
      trimEnd (names.foldl join parent).toList =
        trimEnd parent.toList ++ branch (names.map String.toList)
  | [], _, _ => (List.append_nil _).symm
  | n :: names, parent, h => by
      have hothers : ∀ m ∈ names, IsName m.toList :=
        fun m hm => h m (List.mem_cons_of_mem n hm)
      rw [List.foldl_cons, trimEnd_foldl_join (join parent n) hothers,
        trimEnd_join parent (h n List.mem_cons_self), List.map_cons, branch_cons, List.append_assoc,
        List.cons_append]

/-- After at least one name, there is nothing to be trimmed. -/
theorem toList_foldl_join {names : List String} (parent : String) (hnames : names ≠ [])
    (h : ∀ n ∈ names, IsName n.toList) :
    (names.foldl join parent).toList =
      trimEnd parent.toList ++ branch (names.map String.toList) := by
  rcases List.eq_nil_or_concat' names with rfl | ⟨init, n, rfl⟩
  · exact absurd rfl hnames
  · have hn := h n (List.mem_append_right init List.mem_cons_self)
    rw [← trimEnd_foldl_join parent h, List.foldl_append, List.foldl_cons, List.foldl_nil,
      trimEnd_join _ hn, toList_join _ hn.2]

theorem lastPiece_append (cs : List Char) (hsep : separator ∉ n) :
    lastPiece (cs ++ separator :: n) = n := by
  have hpos : ∀ c ∈ n.reverse, (c != separator) = true := by
    intro c hc
    rw [bne_iff_ne]
    rintro rfl
    exact hsep (List.mem_reverse.mp hc)
  have hreverse : (cs ++ separator :: n).reverse = n.reverse ++ separator :: cs.reverse := by
    rw [List.reverse_append, List.reverse_cons, List.append_assoc, List.singleton_append]
  have hstop : (separator :: cs.reverse).takeWhile (· != separator) = [] := rfl
  rw [lastPiece, hreverse, List.takeWhile_append_of_pos hpos, hstop, List.append_nil,
    List.reverse_reverse]

/-- The name of what was joined is what was joined last. -/
theorem name_foldl_join {names : List String} (parent : String)
    (h : ∀ n ∈ names, IsName n.toList) (hnames : names ≠ []) :
    names.getLast? = some (name (names.foldl join parent)) := by
  rcases List.eq_nil_or_concat' names with rfl | ⟨init, n, rfl⟩
  · exact absurd rfl hnames
  · have hn := h n (List.mem_append_right init List.mem_cons_self)
    rw [List.getLast?_concat, List.foldl_append, List.foldl_cons, List.foldl_nil, name,
      trimEnd_join _ hn, lastPiece_append _ hn.2, String.ofList_toList]

end Harvest.Path

namespace Harvest.Scope

open Harvest.Path

variable {s : Scope} {id : String} {ns : List (List Char)} {rest r : List Char}

/-! ## What a scope covers -/

theorem isAnchor_iff_lower :
    s.isAnchor id = true ↔ lower (trimEnd id.toList) = lower (trimEnd s.path.toList) := by
  unfold isAnchor anchor
  rw [same_iff, lower_anchor_inj]

/-- The root needs no case of its own: trimmed it is empty, and every text begins with that. -/
theorem relative?_eq (s : Scope) (id : String) :
    s.relative? id = (after? (trimEnd s.path.toList) id.toList).bind properTail := by
  unfold relative? anchor
  by_cases h : trimEnd s.path.toList = []
  · rw [anchor_of_nil h, h]
    rfl
  · have hne : trimEnd s.path.toList ≠ ['/'] := trimEnd_ne_separator _
    rw [anchor_of_ne_nil h, if_neg hne]

theorem properTail_eq_some :
    properTail rest = some r ↔ rest = r ∧ rest.head? = some separator ∧ rest ≠ [separator] := by
  unfold properTail
  split
  · constructor
    · intro h
      exact ⟨Option.some.inj h, rfl, nofun⟩
    · rintro ⟨rfl, -, -⟩
      rfl
  · rename_i hshape
    refine iff_of_false nofun ?_
    rintro ⟨-, hhead, hne⟩
    cases rest with
    | nil => cases hhead
    | cons d rest =>
        obtain rfl : d = separator := Option.some.inj hhead
        cases rest with
        | nil => exact hne rfl
        | cons c cs => exact hshape c cs rfl

theorem head?_branch (hne : ns ≠ []) : (branch ns).head? = some separator := by
  cases ns with
  | nil => exact absurd rfl hne
  | cons n ns => rfl

theorem properTail_branch (hne : ns ≠ []) (hns : ∀ n ∈ ns, n ≠ []) :
    properTail (branch ns) = some (ofComponents ns) := by
  rw [ofComponents, if_neg hne]
  cases ns with
  | nil => exact absurd rfl hne
  | cons n ns =>
      obtain ⟨c, cs, rfl⟩ := List.exists_cons_of_ne_nil (hns n List.mem_cons_self)
      rfl

theorem branch_anchor (hhead : s.path.toList.head? = some separator) :
    branch (components s.anchor) = trimEnd s.path.toList :=
  branch_components_anchor hhead

theorem isAnchor_ofComponents (hhead : s.path.toList.head? = some separator)
    (hns : ∀ n ∈ ns, IsName n) (hid : id.toList = ofComponents ns) :
    s.isAnchor id = true ↔ (components s.anchor).map lower = ns.map lower := by
  have hfree : ∀ n ∈ components s.anchor, separator ∉ n :=
    fun n => separator_not_mem_of_mem_components
  rw [isAnchor_iff_lower, hid, trimEnd_ofComponents hns, ← branch_anchor hhead,
    lower_branch_inj (fun n hn => (hns n hn).2) hfree]
  exact eq_comm

/-- Below a scope is what has more components than its anchor, and begins with those. -/
theorem relative?_ofComponents (hhead : s.path.toList.head? = some separator)
    (hns : ∀ n ∈ ns, IsName n) (hid : id.toList = ofComponents ns) :
    s.relative? id = some r ↔
      (components s.anchor).map lower <+: ns.map lower ∧
      (components s.anchor).length < ns.length ∧
      r = ofComponents (ns.drop (components s.anchor).length) := by
  have hfree : ∀ n ∈ components s.anchor, separator ∉ n :=
    fun n => separator_not_mem_of_mem_components
  have hnsFree : ∀ n ∈ ns, separator ∉ n := fun n hn => (hns n hn).2
  rw [relative?_eq, Option.bind_eq_some_iff, hid, ← branch_anchor hhead]
  by_cases hroot : ns = []
  · -- the rest of the root is the root or nothing, neither of which is a proper tail
    subst hroot
    refine iff_of_false ?_ (fun h => absurd h.2.1 (Nat.not_lt_zero _))
    rintro ⟨rest, hafter, htail⟩
    obtain ⟨-, hrest, hne⟩ := properTail_eq_some.mp htail
    obtain ⟨front, hcut, -⟩ := after?_eq_some.mp hafter
    cases front with
    | nil => exact hne hcut.symm
    | cons c front =>
        obtain ⟨-, rfl⟩ := List.append_eq_nil_iff.mp (List.cons.inj hcut).2.symm
        cases hrest
  · rw [ofComponents, if_neg hroot]
    constructor
    · rintro ⟨rest, hafter, htail⟩
      obtain ⟨rfl, hrest, -⟩ := properTail_eq_some.mp htail
      obtain ⟨hbegins, rfl⟩ := (after?_branch hfree hnsFree hrest).mp hafter
      have hmore : ns.drop (components s.anchor).length ≠ [] := by
        intro hnil
        rw [hnil] at hrest
        cases hrest
      have hlength : (components s.anchor).length < ns.length :=
        Nat.lt_of_not_le fun hle => hmore (List.drop_eq_nil_iff.mpr hle)
      refine ⟨hbegins, hlength, ?_⟩
      rw [ofComponents, if_neg hmore]
    · rintro ⟨hbegins, hlength, rfl⟩
      have hmore : ns.drop (components s.anchor).length ≠ [] :=
        fun hnil => absurd (List.drop_eq_nil_iff.mp hnil) (Nat.not_le.mpr hlength)
      exact ⟨_, (after?_branch hfree hnsFree (head?_branch hmore)).mpr ⟨hbegins, rfl⟩,
        properTail_branch hmore (fun n hn => (hns n (List.mem_of_mem_drop hn)).1)⟩

/-- What is joined onto the anchor, in any case, lies below the scope by the joined names. -/
theorem relative?_foldl_join {variant : String} {names : List String}
    (hvariant : same variant.toList s.anchor = true) (hnames : names ≠ [])
    (h : ∀ n ∈ names, IsName n.toList) :
    s.relative? (names.foldl join variant) = some (ofComponents (names.map String.toList)) := by
  have hlower : lower (trimEnd variant.toList) = lower (trimEnd s.path.toList) := by
    rw [lower_trimEnd, same_iff.mp hvariant, ← lower_trimEnd, anchor, trimEnd_anchor]
  have hafter : after? (trimEnd s.path.toList) (names.foldl join variant).toList =
      some (branch (names.map String.toList)) :=
    after?_eq_some.mpr ⟨trimEnd variant.toList, toList_foldl_join variant hnames h, hlower⟩
  have hpieces : ∀ n ∈ names.map String.toList, n ≠ [] := by
    intro n hn
    obtain ⟨name, hname, rfl⟩ := List.mem_map.mp hn
    exact (h name hname).1
  rw [relative?_eq, hafter, Option.bind_some]
  exact properTail_branch (fun hnil => hnames (List.map_eq_nil_iff.mp hnil)) hpieces

/-- **A scope covers by components.** Its anchor is what has the same components up to case, and
below it is what has more of them and begins with those of the anchor; the path below is made of the
others. So nothing is both. What is reached from the anchor by joining names lies below by these
names, and is called by the last of them. -/
theorem covers_by_components (s : Scope) (hhead : s.path.toList.head? = some separator) :
    (∀ id : String, IsCanonical id.toList →
      (s.isAnchor id = true ↔
        (components s.anchor).map lower = (components id.toList).map lower) ∧
      (∀ r, s.relative? id = some r ↔
        (components s.anchor).map lower <+: (components id.toList).map lower ∧
        (components s.anchor).length < (components id.toList).length ∧
        r = ofComponents ((components id.toList).drop (components s.anchor).length)) ∧
      ¬ (s.isAnchor id = true ∧ (s.relative? id).isSome = true)) ∧
    ∀ (variant : String) (names : List String), same variant.toList s.anchor = true →
      names ≠ [] → (∀ n ∈ names, IsName n.toList) →
        s.relative? (names.foldl join variant) = some (ofComponents (names.map String.toList)) ∧
        ∀ e : Entry, e.id = names.foldl join variant → names.getLast? = some e.name := by
  refine ⟨?_, ?_⟩
  · rintro id ⟨ns, hns, hid⟩
    have hcomponents : components id.toList = ns := by
      rw [hid, components_ofComponents hns]
    have hanchor := isAnchor_ofComponents hhead hns hid
    have hbelow := fun r => relative?_ofComponents (r := r) hhead hns hid
    rw [hcomponents]
    refine ⟨hanchor, hbelow, ?_⟩
    rintro ⟨his, hsome⟩
    obtain ⟨r, hr⟩ := Option.isSome_iff_exists.mp hsome
    have hlengths := congrArg List.length (hanchor.mp his)
    rw [List.length_map, List.length_map] at hlengths
    exact absurd hlengths (Nat.ne_of_lt ((hbelow r).mp hr).2.1)
  · intro variant names hvariant hnames h
    refine ⟨relative?_foldl_join hvariant hnames h, ?_⟩
    intro e he
    rw [Entry.name, he]
    exact name_foldl_join variant h hnames

/-- The letters of ASCII differ in case, and the path of the scope ends in separators. -/
theorem covers_by_components_docs :
    (new "/Dócs//").path.toList.head? = some separator ∧
    (new "/Dócs//").isAnchor "/dóCS" = true ∧
    (new "/Dócs//").relative? "/dócs/a b/C" = some "/a b/C".toList ∧
    (new "/Dócs//").relative? (["a b", "C"].foldl join "/DóCS") = some "/a b/C".toList ∧
    (Entry.leaf (["a b", "C"].foldl join "/DóCS") 1 0).name = "C" := by
  have hhead : (new "/Dócs//").path.toList.head? = some separator := by decide +kernel
  obtain ⟨hids, hjoined⟩ := covers_by_components (new "/Dócs//") hhead
  have hanchor : IsCanonical "/dóCS".toList :=
    ⟨["dóCS".toList], by decide +kernel, by decide +kernel⟩
  have hbelow : IsCanonical "/dócs/a b/C".toList :=
    ⟨["dócs".toList, "a b".toList, "C".toList], by decide +kernel, by decide +kernel⟩
  obtain ⟨hrelative, hname⟩ := hjoined "/DóCS" ["a b", "C"] (by decide +kernel) (by decide)
    (by decide +kernel)
  refine ⟨hhead, (hids _ hanchor).1.mpr (by decide +kernel),
    ((hids _ hbelow).2.1 _).mpr (by decide +kernel), ?_, ?_⟩
  · rw [hrelative]
    decide +kernel
  · exact (Option.some.inj (hname (Entry.leaf _ 1 0) rfl)).symm

end Harvest.Scope
