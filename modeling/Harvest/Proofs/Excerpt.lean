import Harvest.Proofs.ByteOrder
import Harvest.Proofs.Pieces

/-!
# Text that is cut

Content is judged by its first bytes, and these may end inside a character. Read by itself such a
head is no text: what is left of the last character comes out as a replacement, and replacements
speak against the content.

One replacement is all it comes to. The bytes of a character lead the reader through states in which
the rest of them is awaited (`Partial.Awaits`), so a part of a character is still under way when the
bytes end, and is replaced once, however many of its bytes are there (`decodeLossy_of_prefix`). A
head that is cut is long, and a character has four bytes at most, so one replacement is a small
share of its characters. Text is therefore found indexable wherever it is cut (`text_indexable`).
-/

namespace Harvest

namespace Text

variable {c : Char} {cs : List Char} {head bs cut : List UInt8} {p : Partial}

/-! ## One character -/

/-- What the missing bytes of a character have to be for it to be `c`. -/
inductive Partial.Awaits (c : Char) : Partial → List UInt8 → Prop where
  | last {p : Partial} {b : UInt8} (hrange : p.low ≤ b ∧ b ≤ p.high) (hmissing : p.missing ≤ 1)
      (hvalue : Char.ofNat (p.value * 64 + (b.toNat - 0x80)) = c) : Awaits c p [b]
  | more {p : Partial} {b : UInt8} {bs : List UInt8} (hrange : p.low ≤ b ∧ b ≤ p.high)
      (hmissing : 1 < p.missing)
      (hrest : Awaits c ⟨p.value * 64 + (b.toNat - 0x80), p.missing - 1, 0x80, 0xBF⟩ bs) :
      Awaits c p (b :: bs)

theorem leadByte_one : ∀ n < 128, leadByte (UInt8.ofNat n) = .inl (Char.ofNat n) := by decide

theorem leadByte_two : ∀ n < 32, 2 ≤ n →
    leadByte (UInt8.ofNat (n + 0xC0)) = .inr ⟨n, 1, 0x80, 0xBF⟩ := by decide

theorem leadByte_three : ∀ n < 16, leadByte (UInt8.ofNat (n + 0xE0)) =
    .inr ⟨n, 2, if n = 0 then 0xA0 else 0x80, if n = 13 then 0x9F else 0xBF⟩ := by decide

theorem leadByte_four : ∀ n < 5, leadByte (UInt8.ofNat (n + 0xF0)) =
    .inr ⟨n, 3, if n = 0 then 0x90 else 0x80, if n = 4 then 0x8F else 0xBF⟩ := by decide

theorem toNat_tail {n : Nat} (h : n < 64) : (UInt8.ofNat (n + 0x80)).toNat = n + 0x80 := by
  rw [UInt8.toNat_ofNat', Nat.mod_eq_of_lt (by omega)]

theorem tail_in_range {n : Nat} (h : n < 64) :
    (0x80 : UInt8) ≤ UInt8.ofNat (n + 0x80) ∧ UInt8.ofNat (n + 0x80) ≤ 0xBF := by
  simp only [UInt8.le_iff_toNat_le, toNat_tail h, UInt8.reduceToNat]
  omega

/-- The bytes of a character: one that is all of it, or one that awaits the others. -/
theorem exists_lead (c : Char) : ∃ b bs, String.utf8EncodeChar c = b :: bs ∧
    (leadByte b = .inl c ∧ bs = [] ∨ ∃ p, leadByte b = .inr p ∧ p.Awaits c bs) := by
  have hvalid : c.toNat < 0xD800 ∨ (0xDFFF < c.toNat ∧ c.toNat < 0x110000) := c.valid
  have hlast : c.toNat % 64 < 64 := by omega
  rcases utf8EncodeChar_forms c with ⟨hc, heq⟩ | ⟨hc, hc', heq⟩ | ⟨hc, hc', heq⟩ | ⟨hc, hc', heq⟩
  · refine ⟨_, _, heq, Or.inl ⟨?_, rfl⟩⟩
    rw [leadByte_one c.toNat hc, Char.ofNat_toNat]
  · refine ⟨_, _, heq, Or.inr ⟨_, leadByte_two _ (by omega) (by omega), ?_⟩⟩
    refine .last (tail_in_range hlast) le_rfl ?_
    have hvalue : c.toNat / 64 * 64 + (c.toNat % 64 + 0x80 - 0x80) = c.toNat := by omega
    rw [toNat_tail hlast, hvalue, Char.ofNat_toNat]
  · have hsecond : c.toNat / 64 % 64 < 64 := by omega
    refine ⟨_, _, heq, Or.inr ⟨_, leadByte_three _ (by omega), ?_⟩⟩
    refine .more ?_ Nat.one_lt_two (.last (tail_in_range hlast) le_rfl ?_)
    · -- the second byte keeps out shorter forms and surrogates
      simp only [UInt8.le_iff_toNat_le, toNat_tail hsecond]
      split <;> split <;> simp <;> omega
    · have hvalue : (c.toNat / 64 / 64 * 64 + (c.toNat / 64 % 64 + 0x80 - 0x80)) * 64 +
          (c.toNat % 64 + 0x80 - 0x80) = c.toNat := by omega
      simp only [toNat_tail hsecond, toNat_tail hlast]
      rw [hvalue, Char.ofNat_toNat]
  · have hsecond : c.toNat / 64 / 64 % 64 < 64 := by omega
    have hthird : c.toNat / 64 % 64 < 64 := by omega
    refine ⟨_, _, heq, Or.inr ⟨_, leadByte_four _ (by omega), ?_⟩⟩
    refine .more ?_ (by decide : 1 < 3) (.more (tail_in_range hthird) Nat.one_lt_two
      (.last (tail_in_range hlast) le_rfl ?_))
    · -- and what is past the last character
      simp only [UInt8.le_iff_toNat_le, toNat_tail hsecond]
      split <;> split <;> simp <;> omega
    · have hvalue : ((c.toNat / 64 / 64 / 64 * 64 + (c.toNat / 64 / 64 % 64 + 0x80 - 0x80)) * 64 +
          (c.toNat / 64 % 64 + 0x80 - 0x80)) * 64 + (c.toNat % 64 + 0x80 - 0x80) = c.toNat := by
        omega
      simp only [toNat_tail hsecond, toNat_tail hthird, toNat_tail hlast]
      rw [hvalue, Char.ofNat_toNat]

/-- With all its bytes the character is complete. -/
theorem Partial.Awaits.feed_all (h : p.Awaits c bs) (chars : List Char) :
    bs.foldl Decoding.feed ⟨chars, some p⟩ = ⟨c :: chars, none⟩ := by
  induction h with
  | last hrange hmissing hvalue =>
      simp only [List.foldl_cons, List.foldl_nil, Decoding.feed, if_pos hrange, if_pos hmissing,
        hvalue]
  | more hrange hmissing hrest ih =>
      simp only [List.foldl_cons, Decoding.feed, if_pos hrange, if_neg (not_le.mpr hmissing)]
      exact ih

/-- As long as a byte is missing, the character is under way. -/
theorem Partial.Awaits.feed_part (h : p.Awaits c bs) (hcut : cut <+: bs) (hne : cut ≠ bs)
    (chars : List Char) :
    ∃ q, cut.foldl Decoding.feed ⟨chars, some p⟩ = ⟨chars, some q⟩ := by
  induction h generalizing cut with
  | last hrange hmissing hvalue =>
      cases cut with
      | nil => exact ⟨_, rfl⟩
      | cons b cut =>
          obtain ⟨rfl, hnil⟩ := List.cons_prefix_cons.mp hcut
          rw [List.prefix_nil.mp hnil] at hne
          exact absurd rfl hne
  | more hrange hmissing hrest ih =>
      cases cut with
      | nil => exact ⟨_, rfl⟩
      | cons b cut =>
          obtain ⟨rfl, htail⟩ := List.cons_prefix_cons.mp hcut
          simp only [List.foldl_cons, Decoding.feed, if_pos hrange, if_neg (not_le.mpr hmissing)]
          exact ih htail (fun heq => hne (by rw [heq]))

theorem feed_char (c : Char) (chars : List Char) :
    (String.utf8EncodeChar c).foldl Decoding.feed ⟨chars, none⟩ = ⟨c :: chars, none⟩ := by
  obtain ⟨b, bs, heq, ⟨hlead, rfl⟩ | ⟨p, hlead, hawaits⟩⟩ := exists_lead c
  · simp only [heq, List.foldl_cons, List.foldl_nil, Decoding.feed, Decoding.lead, hlead]
  · simp only [heq, List.foldl_cons, Decoding.feed, Decoding.lead, hlead]
    exact hawaits.feed_all chars

/-- Some bytes of a character, but not all of them. -/
def IsPart (c : Char) (cut : List UInt8) : Prop :=
  cut <+: String.utf8EncodeChar c ∧ cut ≠ String.utf8EncodeChar c ∧ cut ≠ []

theorem feed_part (h : IsPart c cut) (chars : List Char) :
    ∃ q, cut.foldl Decoding.feed ⟨chars, none⟩ = ⟨chars, some q⟩ := by
  obtain ⟨hcut, hne, hnil⟩ := h
  obtain ⟨b, cut, rfl⟩ := List.exists_cons_of_ne_nil hnil
  obtain ⟨b', bs, heq, hlead⟩ := exists_lead c
  rw [heq] at hcut hne
  obtain ⟨rfl, htail⟩ := List.cons_prefix_cons.mp hcut
  have hless : cut ≠ bs := fun h => hne (by rw [h])
  rcases hlead with ⟨_, rfl⟩ | ⟨p, hlead, hawaits⟩
  · exact absurd (List.prefix_nil.mp htail) hless
  · simp only [List.foldl_cons, Decoding.feed, Decoding.lead, hlead]
    exact hawaits.feed_part htail hless chars

theorem length_utf8EncodeChar_le (c : Char) : (String.utf8EncodeChar c).length ≤ 4 := by
  rw [String.length_utf8EncodeChar]
  exact c.utf8Size_le_four

/-! ## A text and its first bytes -/

theorem feed_utf8 (cs chars : List Char) :
    (utf8 cs).foldl Decoding.feed ⟨chars, none⟩ = ⟨cs.reverse ++ chars, none⟩ := by
  induction cs generalizing chars with
  | nil => rfl
  | cons c cs ih =>
      rw [utf8_cons, List.foldl_append, feed_char, ih, List.reverse_cons, List.append_assoc,
        List.singleton_append]

/-- **Text is read as it was written.** -/
theorem decodeLossy_utf8 (cs : List Char) : decodeLossy (utf8 cs) = cs := by
  rw [decodeLossy, feed_utf8]
  simp [Decoding.finish]

theorem length_utf8_le (cs : List Char) : (utf8 cs).length ≤ 4 * cs.length := by
  induction cs with
  | nil => exact Nat.le_refl 0
  | cons c cs ih =>
      have hchar := length_utf8EncodeChar_le c
      rw [utf8_cons, List.length_append, List.length_cons]
      omega

/-- The first bytes of a text: whole characters, and behind them perhaps a part of one. -/
theorem exists_whole_of_prefix : ∀ {cs : List Char} {head : List UInt8}, head <+: utf8 cs →
    ∃ whole cut, whole <+: cs ∧ head = utf8 whole ++ cut ∧ (cut = [] ∨ ∃ c, IsPart c cut)
  | [], head, h => ⟨[], [], List.nil_prefix, List.prefix_nil.mp h, Or.inl rfl⟩
  | c :: cs, head, h => by
      rw [utf8_cons] at h
      rcases List.prefix_or_prefix_of_prefix h (List.prefix_append _ _) with hcut | ⟨rest, rfl⟩
      · by_cases hwhole : head = String.utf8EncodeChar c
        · refine ⟨[c], [], List.cons_prefix_cons.mpr ⟨rfl, List.nil_prefix⟩, ?_, Or.inl rfl⟩
          rw [hwhole, utf8_cons, List.append_nil]
          exact (List.append_nil _).symm
        · refine ⟨[], head, List.nil_prefix, rfl, ?_⟩
          by_cases hnil : head = []
          · exact Or.inl hnil
          · exact Or.inr ⟨c, hcut, hwhole, hnil⟩
      · have hrest : rest <+: utf8 cs := (List.prefix_append_right_inj _).mp h
        obtain ⟨whole, cut, hwhole, rfl, hcut⟩ := exists_whole_of_prefix hrest
        refine ⟨c :: whole, cut, List.cons_prefix_cons.mpr ⟨rfl, hwhole⟩, ?_, hcut⟩
        rw [utf8_cons, List.append_assoc]

/-- **A text that is cut is read up to the cut**, and the cut costs one replacement at most. -/
theorem decodeLossy_of_prefix (h : head <+: utf8 cs) :
    ∃ whole, whole <+: cs ∧
      (decodeLossy head = whole ∨ decodeLossy head = whole ++ [replacement]) ∧
      head.length ≤ 4 * (decodeLossy head).length := by
  obtain ⟨whole, cut, hwhole, rfl, hcut⟩ := exists_whole_of_prefix h
  have hlength := length_utf8_le whole
  refine ⟨whole, hwhole, ?_⟩
  rcases hcut with rfl | ⟨c, hpart⟩
  · rw [List.append_nil, decodeLossy_utf8]
    exact ⟨Or.inl rfl, hlength⟩
  · obtain ⟨q, hq⟩ := feed_part hpart (whole.reverse ++ [])
    have hdecode : decodeLossy (utf8 whole ++ cut) = whole ++ [replacement] := by
      rw [decodeLossy, List.foldl_append, feed_utf8, hq]
      simp [Decoding.finish]
    have hchar : cut.length ≤ 4 := hpart.1.length_le.trans (length_utf8EncodeChar_le c)
    refine ⟨Or.inr hdecode, ?_⟩
    rw [hdecode, List.length_append, List.length_append, List.length_singleton]
    omega

/-! ## Bytes as a list -/

theorem toList_loop (b : ByteArray) (i : Nat) (r : List UInt8) :
    ByteArray.toList.loop b i r = r.reverse ++ b.data.toList.drop i := by
  fun_induction ByteArray.toList.loop b i r with
  | case1 i r h ih =>
      have hget : b.get! i = b.data[i] := getElem!_pos b.data i h
      rw [ih, List.reverse_cons, List.append_assoc, List.singleton_append, hget,
        ← Array.getElem_toList h, ← List.drop_eq_getElem_cons]
  | case2 i r h =>
      rw [List.drop_eq_nil_of_le (Nat.le_of_not_lt h), List.append_nil]

theorem toList_extract (s : String) (n : Nat) :
    (s.toUTF8.extract 0 n).toList = (utf8 s.toList).take n := by
  have htoList : (s.toUTF8.extract 0 n).toList = (s.toUTF8.extract 0 n).data.toList :=
    toList_loop _ 0 []
  rw [htoList, ← bytes_eq, ByteArray.data_extract, Array.toList_extract]
  rfl

end Text

namespace Fingerprint

open Text

/-! ## The judgement of text -/

/-- Characters of text: no replacement, and no control other than tab and line ends. -/
def IsTextual (c : Char) : Prop :=
  c ≠ replacement ∧ (isControl c = true → c = '\t' ∨ c = '\n' ∨ c = '\r')

theorem isForeign_of_isTextual {c : Char} (h : IsTextual c) : isForeign c = false := by
  obtain ⟨hreplacement, hcontrol⟩ := h
  unfold isForeign
  cases hc : isControl c with
  | false => simp [hreplacement]
  | true => rcases hcontrol hc with rfl | rfl | rfl <;> rfl

/-- A head of text is judged to be text if it is all of it, or long enough for a replacement. -/
theorem sniff_of_prefix {cs : List Char} {head : List UInt8} (hcs : ∀ c ∈ cs, IsTextual c)
    (hhead : head <+: utf8 cs) (hnil : head ≠ [])
    (hlong : head = utf8 cs ∨ 4 * foreignShare ≤ head.length) : sniff head = true := by
  have hcount : ∀ {whole : List Char}, whole <+: cs → whole.countP isForeign = 0 := by
    intro whole hwhole
    refine List.countP_eq_zero.mpr (fun c hc => ?_)
    rw [isForeign_of_isTextual (hcs c (hwhole.subset hc))]
    exact Bool.false_ne_true
  have hmostly : isMostlyText (decodeLossy head) = true := by
    unfold isMostlyText
    rw [decide_eq_true_eq]
    rcases hlong with rfl | hlong
    · rw [decodeLossy_utf8, hcount List.prefix_rfl]
      exact Nat.zero_le _
    · obtain ⟨whole, hwhole, hread, hlength⟩ := decodeLossy_of_prefix hhead
      have hone : (decodeLossy head).countP isForeign ≤ 1 := by
        rcases hread with hread | hread
        · rw [hread, hcount hwhole]
          exact Nat.zero_le 1
        · rw [hread, List.countP_append, hcount hwhole, Nat.zero_add]
          exact List.countP_le_length
      unfold foreignShare at hlong ⊢
      omega
  rw [sniff, if_neg (by rwa [List.isEmpty_iff]), hmostly, Bool.or_true]

/-- **Text is indexable wherever it is cut.** Content that is text, of whatever length, with no
replacement in it and no control but tab and line ends, is worth indexing by its first bytes, and
its fingerprint says so, in whatever pieces it is read. -/
theorem text_indexable (s : String) (hne : s ≠ "") (htext : ∀ c ∈ s.toList, IsTextual c) :
    sniff (s.toUTF8.extract 0 sniffLength).toList = true ∧
      ∀ pieces : List ByteArray, pieces.foldl (· ++ ·) .empty = s.toUTF8 →
        (ofPieces pieces).indexable = true := by
  have hsniff : sniff (s.toUTF8.extract 0 sniffLength).toList = true := by
    have hsome : utf8 s.toList ≠ [] := by
      obtain ⟨c, cs, hcs⟩ :=
        List.exists_cons_of_ne_nil (fun h => hne (String.toList_eq_nil_iff.mp h))
      rw [hcs, utf8_cons]
      exact List.append_ne_nil_of_left_ne_nil String.utf8EncodeChar_ne_nil _
    rw [toList_extract]
    refine sniff_of_prefix htext (List.take_prefix _ _) ?_ ?_
    · rw [ne_eq, List.take_eq_nil_iff, not_or]
      exact ⟨by decide, hsome⟩
    · rcases Nat.le_total (utf8 s.toList).length sniffLength with hshort | hlong
      · exact Or.inl (List.take_of_length_le hshort)
      · rw [List.length_take, Nat.min_eq_left hlong]
        exact Or.inr (by decide)
  refine ⟨hsniff, fun pieces hpieces => ?_⟩
  rw [ofPieces_eq, hpieces]
  exact hsniff

/-- One byte, and characters of four bytes behind it. -/
def faces : String := String.ofList ('a' :: List.replicate 2100 '😀')

theorem toList_faces : faces.toList = 'a' :: List.replicate 2100 '😀' := String.toList_ofList

/-- The head of this text ends with three of the four bytes of a character. -/
theorem text_indexable_split :
    1 + 4 * 2047 + 3 = sniffLength ∧ faces ≠ "" ∧ (∀ c ∈ faces.toList, IsTextual c) ∧
      sniff (faces.toUTF8.extract 0 sniffLength).toList = true := by
  have hne : faces ≠ "" := by
    rw [ne_eq, ← String.toList_eq_nil_iff, toList_faces]
    exact List.cons_ne_nil _ _
  have htext : ∀ c ∈ faces.toList, IsTextual c := by
    intro c hc
    rw [toList_faces] at hc
    rcases List.mem_cons.mp hc with rfl | hc
    · exact ⟨by decide, nofun⟩
    · rw [List.eq_of_mem_replicate hc]
      exact ⟨by decide, nofun⟩
  exact ⟨rfl, hne, htext, (text_indexable faces hne htext).1⟩

end Fingerprint

end Harvest
