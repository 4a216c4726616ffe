import Harvest.Text.Lowercase

/-!
# The case of characters

What becomes of a character in lowercase. In ASCII only letters change (`toLower_eq_iff`). Outside
ASCII the table sends a letter to one letter, which is outside ASCII as well unless it is the `k` of
the Kelvin sign (`image_lowercaseTable`); so no character but itself becomes an ASCII character that
is not a letter (`mem_lowerChar_iff`). One character is longer in lowercase than it was: the dotted
capital I keeps its dot as a character of its own (`length_lowerChar`).
-/

namespace Harvest.Text

/-! ## ASCII -/

/-- The letters of ASCII by their codes. -/
theorem isAlpha_of_code {c : Char}
    (h : (65 ≤ c.toNat ∧ c.toNat ≤ 90) ∨ (97 ≤ c.toNat ∧ c.toNat ≤ 122)) : c.isAlpha = true := by
  unfold Char.isAlpha Char.isUpper Char.isLower
  simp only [Bool.or_eq_true, Bool.and_eq_true, decide_eq_true_eq]
  exact h

theorem toNat_toLower (c : Char) :
    c.toLower.toNat = if 65 ≤ c.toNat ∧ c.toNat ≤ 90 then c.toNat + 32 else c.toNat := by
  have hdistance : ('a'.val - 'A'.val).toNat = 32 := rfl
  unfold Char.toLower
  split
  · rename_i hupper
    have hcode : 65 ≤ c.toNat ∧ c.toNat ≤ 90 := hupper
    have hc : c.val.toNat = c.toNat := rfl
    rw [if_pos hcode]
    change (c.val + ('a'.val - 'A'.val)).toNat = c.toNat + 32
    rw [UInt32.toNat_add, hdistance, hc]
    omega
  · rename_i hother
    exact (if_neg hother).symm

theorem toLower_toLower (c : Char) : c.toLower.toLower = c.toLower := by
  have hcode := toNat_toLower c
  have hsettled : ¬ (65 ≤ c.toLower.toNat ∧ c.toLower.toNat ≤ 90) := by
    split at hcode <;> omega
  rw [← Char.toNat_inj, toNat_toLower c.toLower, if_neg hsettled]

/-- What is not a letter is the lowercase form of nothing but itself. -/
theorem toLower_eq_iff {c x : Char} (hx : x.isAlpha = false) : c.toLower = x ↔ c = x := by
  -- an uppercase letter and its lowercase form are both letters, and `x` is not
  have hcode : ¬ ((65 ≤ x.toNat ∧ x.toNat ≤ 90) ∨ (97 ≤ x.toNat ∧ x.toNat ≤ 122)) := by
    intro h
    rw [isAlpha_of_code h] at hx
    cases hx
  rw [← Char.toNat_inj, ← Char.toNat_inj, toNat_toLower]
  split <;> omega

/-! ## The table -/

/-- A map is read from the characters of its text. -/
theorem CodeMap.ofHex_ofList (cs : List Char) :
    ofHex (String.ofList cs) = ⟨((CodeSet.words [] cs).map CodeRun.ofHex).toArray⟩ := by
  rw [ofHex, String.toList_ofList]

theorem CodeRun.find?_eq_some {r : CodeRun} {n t : Nat} (h : r.find? n = some t) :
    r.first ≤ n ∧ n ≤ r.last ∧ t = r.target + (n - r.first) := by
  unfold find? at h
  split at h
  · rename_i hin
    exact ⟨hin.1, hin.2.1, (Option.some.inj h).symm⟩
  · cases h

theorem CodeMap.mem_of_searchBelow {runs : Array CodeRun} {n t : Nat} : ∀ {i : Nat},
    searchBelow runs n i = some t → ∃ r ∈ runs, r.find? n = some t
  | 0, h => by cases h
  | i + 1, h => by
      rw [searchBelow] at h
      cases hrun : runs[i]? with
      | none =>
          rw [hrun] at h
          exact mem_of_searchBelow h
      | some r =>
          rw [hrun] at h
          dsimp only at h
          cases hfind : r.find? n with
          | none =>
              rw [hfind] at h
              exact mem_of_searchBelow h
          | some t' =>
              rw [hfind] at h
              obtain rfl := Option.some.inj h
              exact ⟨r, Array.mem_of_getElem? hrun, hfind⟩

/-- What a map finds, one of its runs finds. -/
theorem CodeMap.mem_of_find? {m : CodeMap} {n t : Nat} (h : m.find? n = some t) :
    ∃ r ∈ m.runs.toList, r.find? n = some t := by
  obtain ⟨r, hr, hfind⟩ := mem_of_searchBelow h
  rw [← Array.mem_toList_iff, Array.toList_extract] at hr
  exact ⟨r, List.mem_of_mem_drop (List.mem_of_mem_take hr), hfind⟩

/-- The runs lead to letters outside ASCII and to no surrogates; one code becomes `k`. -/
theorem runs_lowercaseTable : ∀ r ∈ lowercaseTable.runs.toList,
    (r.first = r.last ∧ r.target = 0x6B) ∨ (0x80 ≤ r.target ∧
      (r.target + (r.last - r.first) < 0xD800 ∨
        (0xE000 ≤ r.target ∧ r.target + (r.last - r.first) < 0x110000))) := by
  unfold lowercaseTable
  rw [CodeMap.ofHex_ofList]
  decide +kernel

theorem image_lowercaseTable {n t : Nat} (h : lowercaseTable.find? n = some t) :
    t = 0x6B ∨ (0x80 ≤ t ∧ t.isValidChar) := by
  obtain ⟨r, hr, hfind⟩ := CodeMap.mem_of_find? h
  obtain ⟨hfirst, hlast, rfl⟩ := CodeRun.find?_eq_some hfind
  rcases runs_lowercaseTable r hr with ⟨hsingle, htarget⟩ | ⟨hhigh, hvalid⟩
  · exact Or.inl (by omega)
  · refine Or.inr ⟨by omega, ?_⟩
    unfold Nat.isValidChar
    omega

/-! ## One character -/

theorem length_lowerChar (c : Char) : (lowerChar c).length = if c = 'İ' then 2 else 1 := by
  unfold lowerChar
  by_cases hascii : c.toNat < 0x80
  · have hc : c ≠ 'İ' := by
      rintro rfl
      exact absurd hascii (by decide)
    rw [if_pos hascii, if_neg hc]
    rfl
  · rw [if_neg hascii]
    by_cases hc : c = 'İ'
    · rw [if_pos hc, if_pos hc]
      rfl
    · rw [if_neg hc, if_neg hc]
      split <;> rfl

/-- **An ASCII character that is not a letter comes from itself only.** -/
theorem mem_lowerChar_iff {c x : Char} (hascii : x.toNat < 0x80) (hx : x.isAlpha = false) :
    x ∈ lowerChar c ↔ c = x := by
  unfold lowerChar
  by_cases hc : c.toNat < 0x80
  · rw [if_pos hc, List.mem_singleton, eq_comm, toLower_eq_iff hx]
  · rw [if_neg hc]
    have hne : c ≠ x := by
      rintro rfl
      exact hc hascii
    refine iff_of_false ?_ hne
    split
    · intro hmem
      rcases List.mem_cons.mp hmem with rfl | hmem
      · exact absurd hx (by decide)
      · obtain rfl := List.mem_singleton.mp hmem
        exact absurd hascii (by decide)
    · split
      · rename_i t ht
        intro hmem
        obtain rfl := List.mem_singleton.mp hmem
        rcases image_lowercaseTable ht with rfl | ⟨hhigh, hvalid⟩
        · exact absurd hx (by decide)
        · have hcode : (Char.ofNat t).toNat = t := by
            unfold Char.ofNat
            rw [dif_pos hvalid]
            rfl
          omega
      · intro hmem
        exact hne (List.mem_singleton.mp hmem).symm

/-- The lowercase form is the same in whatever case a letter of ASCII is given. -/
theorem lowerChar_toLower (c : Char) : lowerChar c.toLower = lowerChar c := by
  have hcode := toNat_toLower c
  by_cases hascii : c.toNat < 0x80
  · have hlower : c.toLower.toNat < 0x80 := by split at hcode <;> omega
    unfold lowerChar
    rw [if_pos hascii, if_pos hlower, toLower_toLower]
  · have hsame : c.toLower = c := by
      rw [← Char.toNat_inj, hcode, if_neg (by omega)]
    rw [hsame]

/-! ## Whole texts -/

/-- A text in lowercase is longer by the dots of its dotted capitals. -/
theorem length_lowerEach (s : String) :
    (lowerEach s).length = s.toList.length + s.toList.count 'İ' := by
  unfold lowerEach
  induction s.toList with
  | nil => rfl
  | cons c cs ih =>
      rw [List.flatMap_cons, List.length_append, length_lowerChar, ih, List.length_cons,
        List.count_cons]
      by_cases hc : c = 'İ'
      · simp only [hc, if_true, beq_self_eq_true]
        omega
      · simp only [hc, if_false, beq_iff_eq]
        omega

theorem mem_lowerEach_iff {s : String} {x : Char} (hascii : x.toNat < 0x80)
    (hx : x.isAlpha = false) : x ∈ lowerEach s ↔ x ∈ s.toList := by
  unfold lowerEach
  rw [List.mem_flatMap]
  constructor
  · rintro ⟨c, hc, hmem⟩
    rwa [← (mem_lowerChar_iff hascii hx).mp hmem]
  · intro hmem
    exact ⟨x, hmem, (mem_lowerChar_iff hascii hx).mpr rfl⟩

/-- A character that is its own lowercase form is, however often it comes. -/
theorem lowerEach_replicate {c : Char} (hc : lowerChar c = [c]) (k : Nat) :
    lowerEach (String.ofList (List.replicate k c)) = List.replicate k c := by
  rw [lowerEach, String.toList_ofList]
  induction k with
  | zero => rfl
  | succ k ih => rw [List.replicate_succ, List.flatMap_cons, hc, ih, List.singleton_append]

theorem lowerEach_append (cs ds : List Char) :
    lowerEach (String.ofList (cs ++ ds)) =
      lowerEach (String.ofList cs) ++ lowerEach (String.ofList ds) := by
  unfold lowerEach
  rw [String.toList_ofList, String.toList_ofList, String.toList_ofList, List.flatMap_append]

theorem lowerEach_toLower (s : String) : lowerEach s.toLower = lowerEach s := by
  have hchars : s.toLower.toList = s.toList.map Char.toLower := String.toList_map
  unfold lowerEach
  rw [hchars, List.flatMap_map]
  simp only [lowerChar_toLower]

end Harvest.Text
