import Harvest.Proofs.Casing
import Harvest.Proofs.GlobLanguage

/-!
# Question marks

A question mark takes exactly one character of the name as it is folded, and that need not be one
character of the name as it is written: the dotted capital I is folded into two. So a name fits a
glob that hides some of its characters behind question marks as long as no dotted capital I is
hidden (`matchesName_of_spares`). If one is and no star makes up for it, the folded name is too long
for the folded glob, and the name does not fit (`spares_of_matchesName`): a lone question mark
misses the one-character name `İ`, and two of them match it.
-/

namespace Harvest.Glob

variable {glob text front back : List Char} {k : Nat}

/-! ## Languages of parts -/

theorem language_append (glob glob' : List Char) :
    language (glob ++ glob') = language glob * language glob' := by
  unfold language
  rw [List.map_append, List.prod_append]

/-- A text stands for itself, whatever stars and question marks it holds. -/
theorem self_mem_language : ∀ text : List Char, text ∈ language text
  | [] => mem_language_nil.mpr rfl
  | c :: text => by
      have ih := self_mem_language text
      by_cases hstar : c = '*'
      · subst hstar
        exact mem_language_star.mpr ⟨text, List.suffix_cons _ _, ih⟩
      · exact (cons_mem_language_cons hstar).mpr ⟨Or.inr rfl, ih⟩

/-- Without a star, a glob stands for texts of its own length. -/
theorem length_of_mem_language (hstars : '*' ∉ glob) (h : text ∈ language glob) :
    text.length = glob.length := by
  have hall : text ∈ language (glob ++ []) := by rwa [List.append_nil]
  obtain ⟨hlong, hrest⟩ := drop_mem_language hstars hall
  have hshort : text.length ≤ glob.length := List.drop_eq_nil_iff.mp (mem_language_nil.mp hrest)
  omega

theorem mem_language_marks : text ∈ language (List.replicate k '?') ↔ text.length = k := by
  induction k generalizing text with
  | zero => rw [List.replicate_zero, mem_language_nil, List.length_eq_zero_iff]
  | succ k ih =>
      rw [List.replicate_succ]
      cases text with
      | nil =>
          refine iff_of_false (fun h => ?_) (Nat.succ_ne_zero k).symm
          obtain ⟨c, rest, hnil, _⟩ := (mem_language_cons (by decide)).mp h
          cases hnil
      | cons c text =>
          rw [cons_mem_language_cons (by decide), ih, List.length_cons, Nat.succ_inj]
          exact and_iff_right (Or.inl rfl)

/-! ## Hidden characters -/

/-- The glob is the text with some of its characters replaced by question marks. -/
def Masks (glob text : List Char) : Prop := List.Forall₂ (fun g c => g = c ∨ g = '?') glob text

/-- No dotted capital I is replaced. -/
def Spares (glob text : List Char) : Prop := List.Forall₂ (fun g c => g = c ∨ c ≠ 'İ') glob text

instance : Decidable (Masks glob text) :=
  inferInstanceAs (Decidable (List.Forall₂ (fun g c => g = c ∨ g = '?') glob text))

instance : Decidable (Spares glob text) :=
  inferInstanceAs (Decidable (List.Forall₂ (fun g c => g = c ∨ c ≠ 'İ') glob text))

/-- One character, folded, against what it is hidden behind. -/
theorem lowerChar_mem_language {g c : Char} (hmask : g = c ∨ g = '?') (hspare : g = c ∨ c ≠ 'İ') :
    Text.lowerChar c ∈ language (Text.lowerChar g) := by
  by_cases hsame : g = c
  · rw [hsame]
    exact self_mem_language _
  · obtain rfl := hmask.resolve_left hsame
    have hlength : (Text.lowerChar c).length = 1 := by
      rw [Text.length_lowerChar, if_neg (hspare.resolve_left hsame)]
    have hmark : Text.lowerChar '?' = List.replicate 1 '?' := by decide
    rw [hmark, mem_language_marks, hlength]

theorem flatMap_mem_language (hmask : Masks glob text) (hspare : Spares glob text) :
    text.flatMap Text.lowerChar ∈ language (glob.flatMap Text.lowerChar) := by
  induction hmask with
  | nil => exact self_mem_language []
  | cons hg _ ih =>
      obtain ⟨hc, hrest⟩ := List.forall₂_cons.mp hspare
      rw [List.flatMap_cons, List.flatMap_cons, language_append]
      exact Language.mem_mul.mpr ⟨_, lowerChar_mem_language hg hc, _, ih hrest, rfl⟩

/-- **Names fit their masks**, unless a dotted capital I is hidden. -/
theorem matchesName_of_spares {name glob : String} (hmask : Masks glob.toList name.toList)
    (hspare : Spares glob.toList name.toList) : matchesName name glob = true :=
  (fits_iff _ _).mpr (flatMap_mem_language hmask hspare)

/-- A mask shows no more dotted capitals than there are; if it shows them all, none is hidden. -/
theorem count_le_of_masks (hmask : Masks glob text) :
    glob.count 'İ' ≤ text.count 'İ' ∧ (glob.count 'İ' = text.count 'İ' → Spares glob text) := by
  induction hmask with
  | nil => exact ⟨le_rfl, fun _ => List.Forall₂.nil⟩
  | @cons g c glob text hg _ ih =>
      obtain ⟨hle, hspare⟩ := ih
      rw [List.count_cons, List.count_cons]
      by_cases hsame : g = c
      · subst hsame
        refine ⟨by omega, fun hcount => ?_⟩
        exact List.Forall₂.cons (Or.inl rfl) (hspare (by omega))
      · obtain rfl := hg.resolve_left hsame
        have hmark : ('?' == 'İ') = false := by decide
        by_cases hc : c = 'İ'
        · -- this one is hidden, and the glob cannot make up for it
          have hdotted : (c == 'İ') = true := beq_iff_eq.mpr hc
          simp only [hmark, hdotted, Bool.false_eq_true, if_false, if_true]
          exact ⟨by omega, fun hcount => by omega⟩
        · have hdotted : (c == 'İ') = false := beq_eq_false_iff_ne.mpr hc
          simp only [hmark, hdotted, Bool.false_eq_true, if_false]
          exact ⟨hle, fun hcount => List.Forall₂.cons (Or.inr hc) (hspare hcount)⟩

/-- **A hidden dotted capital is missed** where no star makes up for it. -/
theorem spares_of_matchesName {name glob : String} (hmask : Masks glob.toList name.toList)
    (hstars : '*' ∉ glob.toList) (h : matchesName name glob = true) :
    Spares glob.toList name.toList := by
  have hfolded : '*' ∉ Text.lowerEach glob := by
    rwa [Text.mem_lowerEach_iff (by decide) (by decide)]
  have hlength := length_of_mem_language hfolded ((fits_iff _ _).mp h)
  rw [Text.length_lowerEach, Text.length_lowerEach, ← hmask.length_eq] at hlength
  exact (count_le_of_masks hmask).2 (by omega)

theorem lowerEach_marks (k : Nat) :
    Text.lowerEach (String.ofList (List.replicate k '?')) = List.replicate k '?' :=
  Text.lowerEach_replicate (by decide) k

/-- **What question marks stand for.** A name fits every glob that hides some of its characters
behind question marks and no dotted capital I among them; without stars, it fits no other such glob.
And a glob of question marks only is fitted by the names that have so many characters, dotted
capitals counted twice. -/
theorem marks_match_folded (name : String) :
    (∀ glob : String, Masks glob.toList name.toList → Spares glob.toList name.toList →
      matchesName name glob = true) ∧
    (∀ glob : String, Masks glob.toList name.toList → '*' ∉ glob.toList →
      (matchesName name glob = true ↔ Spares glob.toList name.toList)) ∧
    ∀ k : Nat, matchesName name (String.ofList (List.replicate k '?')) = true ↔
      name.toList.length + name.toList.count 'İ' = k := by
  refine ⟨fun _ => matchesName_of_spares, fun glob hmask hstars =>
    ⟨spares_of_matchesName hmask hstars, matchesName_of_spares hmask⟩, fun k => ?_⟩
  rw [matchesName, lowerEach_marks, fits_iff, mem_language_marks, Text.length_lowerEach]

theorem marks_match_folded_street :
    Masks "Str??e *İ".toList "Straße *İ".toList ∧ Spares "Str??e *İ".toList "Straße *İ".toList ∧
      matchesName "Straße *İ" "Str??e *İ" = true := by
  have hmask : Masks "Str??e *İ".toList "Straße *İ".toList := by decide +kernel
  have hspare : Spares "Str??e *İ".toList "Straße *İ".toList := by decide +kernel
  exact ⟨hmask, hspare, (marks_match_folded _).1 _ hmask hspare⟩

/-- **One question mark is not one character.** The name `İ` has one character and does not fit a
glob that hides it behind a question mark; it fits two question marks instead. -/
theorem mark_misses_dotted :
    Masks "?".toList "İ".toList ∧ matchesName "İ" "?" = false ∧
      "İ".toList.length = 1 ∧ matchesName "İ" "??" = true := by
  decide +kernel

end Harvest.Glob
