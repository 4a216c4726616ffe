import Mathlib.Data.String.Basic

/-!
# The order of bytes

Texts are ordered by their characters, and the same order is that of their bytes. UTF-8 is made so:
the later of two characters has the greater bytes, at the first place where they differ, and no
character is the beginning of another (`utf8EncodeChar_append_lt`). So two texts compare as their
bytes do, from the left (`bytes_lt_iff`), and only the same text has the same bytes
(`utf8_injective`).
-/

namespace Harvest.Text

variable {cs ds : List Char}

/-- The bytes of characters, one after the other. -/
def utf8 (cs : List Char) : List UInt8 := cs.flatMap String.utf8EncodeChar

/-- The bytes of a text. -/
def bytes (s : String) : List UInt8 := s.toUTF8.data.toList

theorem utf8_cons (c : Char) (cs : List Char) :
    utf8 (c :: cs) = String.utf8EncodeChar c ++ utf8 cs := List.flatMap_cons

theorem bytes_eq (s : String) : bytes s = utf8 s.toList := by
  have hbytes : s.toUTF8 = s.toList.utf8Encode := by
    rw [← String.toByteArray_ofList, String.ofList_toList]
    rfl
  rw [bytes, hbytes]
  exact List.toList_data_toByteArray

/-- The forms of a character: one to four bytes, of which the first tells how many. -/
theorem utf8EncodeChar_forms (c : Char) :
    (c.toNat < 0x80 ∧ String.utf8EncodeChar c = [UInt8.ofNat c.toNat]) ∨
      (0x80 ≤ c.toNat ∧ c.toNat < 0x800 ∧ String.utf8EncodeChar c =
        [UInt8.ofNat (c.toNat / 64 + 0xC0), UInt8.ofNat (c.toNat % 64 + 0x80)]) ∨
      (0x800 ≤ c.toNat ∧ c.toNat < 0x10000 ∧ String.utf8EncodeChar c =
        [UInt8.ofNat (c.toNat / 64 / 64 + 0xE0), UInt8.ofNat (c.toNat / 64 % 64 + 0x80),
          UInt8.ofNat (c.toNat % 64 + 0x80)]) ∨
      (0x10000 ≤ c.toNat ∧ c.toNat < 0x110000 ∧ String.utf8EncodeChar c =
        [UInt8.ofNat (c.toNat / 64 / 64 / 64 + 0xF0), UInt8.ofNat (c.toNat / 64 / 64 % 64 + 0x80),
          UInt8.ofNat (c.toNat / 64 % 64 + 0x80), UInt8.ofNat (c.toNat % 64 + 0x80)]) := by
  have hvalid : c.toNat < 0xD800 ∨ (0xDFFF < c.toNat ∧ c.toNat < 0x110000) := c.valid
  have hcode : c.val.toNat = c.toNat := rfl
  unfold String.utf8EncodeChar
  dsimp only
  rw [hcode]
  by_cases hone : c.toNat ≤ 0x7F
  · exact Or.inl ⟨by omega, if_pos hone⟩
  · rw [if_neg hone]
    by_cases htwo : c.toNat ≤ 0x7FF
    · have hdigit : c.toNat / 64 % 32 = c.toNat / 64 := by omega
      rw [if_pos htwo, hdigit]
      exact Or.inr (Or.inl ⟨by omega, by omega, rfl⟩)
    · rw [if_neg htwo]
      by_cases hthree : c.toNat ≤ 0xFFFF
      · have hdigit : c.toNat / 4096 % 16 = c.toNat / 64 / 64 := by omega
        rw [if_pos hthree, hdigit]
        exact Or.inr (Or.inr (Or.inl ⟨by omega, by omega, rfl⟩))
      · have hdigit : c.toNat / 262144 % 8 = c.toNat / 64 / 64 / 64 := by omega
        have hnext : c.toNat / 4096 = c.toNat / 64 / 64 := by omega
        rw [if_neg hthree, hdigit, hnext]
        exact Or.inr (Or.inr (Or.inr ⟨by omega, by omega, rfl⟩))

/-- **The later character has the greater bytes**, whatever follows either. A longer form starts with
a greater byte, and forms of one length are compared digit by digit. -/
theorem utf8EncodeChar_append_lt {c d : Char} (h : c < d) (x y : List UInt8) :
    String.utf8EncodeChar c ++ x < String.utf8EncodeChar d ++ y := by
  have hcode : c.toNat < d.toNat := Char.lt_def.mp h
  rcases utf8EncodeChar_forms c with ⟨hc, heq⟩ | ⟨hc, hc', heq⟩ | ⟨hc, hc', heq⟩ | ⟨hc, hc', heq⟩ <;>
    rcases utf8EncodeChar_forms d with ⟨hd, heq'⟩ | ⟨hd, hd', heq'⟩ | ⟨hd, hd', heq'⟩ | ⟨hd, hd', heq'⟩ <;>
    rw [heq, heq'] <;>
    simp (disch := omega) only [List.cons_append, List.nil_append, List.cons_lt_cons_iff,
      UInt8.lt_iff_toNat_lt, ← UInt8.toNat_inj, UInt8.toNat_ofNat', Nat.mod_eq_of_lt] <;>
    omega

theorem utf8_lt_of_lt : ∀ {cs ds : List Char}, cs < ds → utf8 cs < utf8 ds
  | _, [], h => absurd h (List.not_lt_nil _)
  | [], d :: ds, _ => by
      obtain ⟨b, rest, hd⟩ := List.exists_cons_of_ne_nil (String.utf8EncodeChar_ne_nil (c := d))
      rw [utf8_cons, hd]
      exact List.nil_lt_cons b _
  | c :: cs, d :: ds, h => by
      rw [utf8_cons, utf8_cons]
      rcases List.cons_lt_cons_iff.mp h with hfirst | ⟨rfl, hrest⟩
      · exact utf8EncodeChar_append_lt hfirst _ _
      · exact List.append_left_lt (utf8_lt_of_lt hrest)

/-- **Only the same characters have the same bytes.** -/
theorem utf8_injective (h : utf8 cs = utf8 ds) : cs = ds := by
  rcases lt_trichotomy cs ds with hlt | heq | hgt
  · exact absurd (h ▸ utf8_lt_of_lt hlt) (List.lt_irrefl _)
  · exact heq
  · exact absurd (h ▸ utf8_lt_of_lt hgt) (List.lt_irrefl _)

/-- **Texts compare as their bytes do.** -/
theorem bytes_lt_iff {s t : String} : bytes s < bytes t ↔ s < t := by
  rw [bytes_eq, bytes_eq, String.lt_iff_toList_lt]
  refine ⟨fun h => ?_, utf8_lt_of_lt⟩
  rcases lt_trichotomy s.toList t.toList with hlt | heq | hgt
  · exact hlt
  · rw [heq] at h
    exact absurd h (List.lt_irrefl _)
  · exact absurd (utf8_lt_of_lt hgt) (List.lt_asymm h)

end Harvest.Text
