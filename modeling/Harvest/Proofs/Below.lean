import Std.Data.TreeMap.Lemmas
import Harvest.Crawl.Report

/-!
# The block of keys below an identifier

A pass finds what lies below an identifier by one scan over the sorted keys, which starts at the
stem and gives up at the first key that does not start with it. That this misses nothing is a fact
about the order: between two texts that start alike, every text starts so too. Names that merely go
on from the identifier (`/subway` beside `/sub`) are parted from the block by the separator at the
end of the stem.

`mem_below` is what the rest of the development uses; nothing after it opens the scan again.
-/

namespace Harvest

/-! ## Scans that see a whole block -/

/-- A scan that gives up at the first miss finds every hit, if no hit comes after a miss. -/
theorem takeWhile_eq_filter {α : Type} {p : α → Bool} : ∀ {l : List α},
    l.Pairwise (fun a b => p b = true → p a = true) → l.takeWhile p = l.filter p
  | [], _ => rfl
  | a :: l, h => by
      obtain ⟨ha, hl⟩ := List.pairwise_cons.mp h
      by_cases hp : p a = true
      · rw [List.takeWhile_cons_of_pos hp, List.filter_cons_of_pos hp, takeWhile_eq_filter hl]
      · have hnone : l.filter p = [] :=
          List.filter_eq_nil_iff.mpr (fun b hb hpb => hp (ha b hb hpb))
        rw [List.takeWhile_cons_of_neg hp, List.filter_cons_of_neg hp, hnone]

/-- Dropping up to the first miss drops every hit, if no hit comes after a miss. -/
theorem dropWhile_eq_filter {α : Type} {p : α → Bool} : ∀ {l : List α},
    l.Pairwise (fun a b => p b = true → p a = true) → l.dropWhile p = l.filter (fun a => !p a)
  | [], _ => rfl
  | a :: l, h => by
      obtain ⟨ha, hl⟩ := List.pairwise_cons.mp h
      by_cases hp : p a = true
      · rw [List.dropWhile_cons_of_pos hp, List.filter_cons_of_neg (by simp [hp]),
          dropWhile_eq_filter hl]
      · have hall : l.filter (fun a => !p a) = l :=
          List.filter_eq_self.mpr (fun b hb => by
            have hb' : p b ≠ true := fun hpb => hp (ha b hb hpb)
            simpa using hb')
        rw [List.dropWhile_cons_of_neg hp, List.filter_cons_of_pos (by simp [hp]), hall]

/-! ## The order of texts -/

/-- A text comes after none of its beginnings. -/
theorem not_lt_of_isPrefix : ∀ {s x : List Char}, s <+: x → ¬x < s
  | [], _, _ => List.not_lt_nil _
  | c :: s, x, h => by
      obtain ⟨t, rfl⟩ := h
      rw [List.cons_append, List.cons_lt_cons_iff]
      intro h0
      rcases h0 with hlt | ⟨_, hlt⟩
      · exact absurd hlt (Char.lt_irrefl c)
      · exact not_lt_of_isPrefix (List.prefix_append s t) hlt

/-- What lies between a beginning and a text with that beginning has the beginning too. -/
theorem isPrefix_of_between : ∀ {s x y : List Char}, s <+: y → ¬x < s → x < y → s <+: x
  | [], _, _, _, _, _ => List.nil_prefix
  | c :: s, [], _, _, hx, _ => absurd (List.nil_lt_cons c s) hx
  | c :: s, d :: x, y, h, hx, hxy => by
      obtain ⟨t, rfl⟩ := h
      rw [List.cons_lt_cons_iff, not_or, not_and] at hx
      rw [List.cons_append, List.cons_lt_cons_iff] at hxy
      rcases hxy with hlt | ⟨rfl, hlt⟩
      · -- a smaller first character would put the text before the beginning
        exact absurd hlt hx.1
      · have ih := isPrefix_of_between (List.prefix_append s t) (hx.2 rfl) hlt
        exact (List.prefix_cons_inj d).mpr ih

/-! ## Stems -/

theorem stem_toList (id : String) :
    (Path.stem id).toList = Path.trimEnd id.toList ++ [Path.separator] := String.toList_ofList

theorem below_iff {ancestor id : String} :
    Path.below ancestor id = true ↔ (Path.stem ancestor).toList <+: id.toList ∧ id ≠ "/" := by
  unfold Path.below
  rw [Bool.and_eq_true, List.isPrefixOf_iff_prefix, bne_iff_ne]

/-- Of what starts with a stem, the root alone is a single byte. -/
theorem one_lt_utf8ByteSize_iff {ancestor id : String}
    (h : (Path.stem ancestor).toList <+: id.toList) : 1 < id.utf8ByteSize ↔ id ≠ "/" := by
  obtain ⟨rest, hrest⟩ := h
  have hid : id = String.ofList (Path.trimEnd ancestor.toList) ++ "/" ++ String.ofList rest := by
    rw [← String.toList_inj, ← hrest, stem_toList]
    simp [Path.separator]
  have hsize : id.utf8ByteSize = (String.ofList (Path.trimEnd ancestor.toList)).utf8ByteSize + 1 +
      (String.ofList rest).utf8ByteSize := by
    rw [hid, String.utf8ByteSize_append, String.utf8ByteSize_append]
    rfl
  constructor
  · intro hlt heq
    obtain rfl := heq
    exact absurd hlt (by decide)
  · intro hne
    -- in a single byte there is room for nothing but the separator
    refine Decidable.byContradiction (fun hle => ?_)
    have hfront : (String.ofList (Path.trimEnd ancestor.toList)).utf8ByteSize = 0 := by omega
    have hback : (String.ofList rest).utf8ByteSize = 0 := by omega
    rw [String.utf8ByteSize_eq_zero_iff] at hfront hback
    rw [hid, hfront, hback] at hne
    exact hne rfl

/-! ## The block -/

theorem compare_lt_iff {a b : String} : compare a b = .lt ↔ a < b := compareOfLessAndEq_eq_lt

/-- Every scan over the entries of a map meets smaller keys first. -/
theorem toList_pairwise_lt (versions : VersionMap) :
    versions.toList.Pairwise (fun a b => a.1.toList < b.1.toList) :=
  Std.TreeMap.ordered_keys_toList.imp (fun h => compare_lt_iff.mp h)

theorem below_eq_filter (previous : VersionMap) (id : String) :
    previous.below id = previous.toList.filter (fun entry => Path.below id entry.1) := by
  have hsorted := toList_pairwise_lt previous
  have htail : previous.toList.dropWhile (fun entry => entry.1 < Path.stem id) =
      previous.toList.filter (fun entry => !decide (entry.1 < Path.stem id)) := by
    refine dropWhile_eq_filter (hsorted.imp (fun {a b} hab hb => ?_))
    have hb : b.1.toList < (Path.stem id).toList := of_decide_eq_true hb
    exact decide_eq_true (List.lt_trans hab hb : a.1.toList < (Path.stem id).toList)
  -- from the stem on, no key that starts with it comes after one that does not
  have hblock : (previous.toList.filter (fun entry => !decide (entry.1 < Path.stem id))).Pairwise
      (fun a b => (Path.stem id).toList.isPrefixOf b.1.toList = true →
        (Path.stem id).toList.isPrefixOf a.1.toList = true) := by
    refine (hsorted.filter _).imp_of_mem ?_
    intro a b ha _ hab hb
    have ha : ¬a.1.toList < (Path.stem id).toList := by
      have h := (List.mem_filter.mp ha).2
      rw [Bool.not_eq_true', decide_eq_false_iff_not] at h
      exact h
    exact List.isPrefixOf_iff_prefix.mpr
      (isPrefix_of_between (List.isPrefixOf_iff_prefix.mp hb) ha hab)
  -- both scans are filters now, and so is the last step
  simp only [VersionMap.below]
  rw [htail, takeWhile_eq_filter hblock, List.filter_filter, List.filter_filter]
  refine List.filter_congr (fun entry _ => ?_)
  rw [Bool.eq_iff_iff, below_iff]
  simp only [Bool.and_eq_true, decide_eq_true_eq, List.isPrefixOf_iff_prefix, Bool.not_eq_true',
    decide_eq_false_iff_not]
  constructor
  · intro h0
    obtain ⟨⟨hlt, hstem⟩, _⟩ := h0
    exact ⟨hstem, (one_lt_utf8ByteSize_iff hstem).mp hlt⟩
  · intro h0
    obtain ⟨hstem, hne⟩ := h0
    exact ⟨⟨(one_lt_utf8ByteSize_iff hstem).mpr hne, hstem⟩, not_lt_of_isPrefix hstem⟩

/-- **The scan finds exactly what lies below.** The entries it answers are those of the map whose
key lies below the identifier, and no others. -/
theorem mem_below {previous : VersionMap} {id key token : String} :
    (key, token) ∈ previous.below id ↔ previous[key]? = some token ∧ Path.below id key = true := by
  rw [below_eq_filter, List.mem_filter, Std.TreeMap.mem_toList_iff_getElem?_eq_some]

end Harvest
