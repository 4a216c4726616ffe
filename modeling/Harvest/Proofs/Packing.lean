import Harvest.Packing
import Harvest.Proofs.Numeral

/-!
# Packed fields read back

What was packed is read back with whatever follows it left untouched. Following text is part of
every statement: fields carry no length of their own, so a reader that consumed one character too
many or too few would go wrong in the next field and not in this one.

Reading back gives **unique readability**: of two texts that start with a packed field and are
equal, the fields are equal and so are the rests. For lists this holds without any bound on their
length, although the reader refuses counts that do not fit into a word.
-/

namespace Harvest.Packing

variable {d : Char}

/-! ## One character at a time -/

theorem unpack_delimiter (hd : d ≠ escape) (cs : List Char) : unpack d (d :: cs) = ([], cs) := by
  rw [unpack.eq_def]
  simp only [if_neg hd, if_true]

theorem unpack_escape (e : Char) (cs : List Char) :
    unpack d (escape :: e :: cs) = (e :: (unpack d cs).1, (unpack d cs).2) := by
  rw [unpack.eq_def]
  simp only [if_true]

theorem unpack_plain {c : Char} (he : c ≠ escape) (hd : c ≠ d) (cs : List Char) :
    unpack d (c :: cs) = (c :: (unpack d cs).1, (unpack d cs).2) := by
  rw [unpack.eq_def]
  simp only [if_neg he, if_neg hd]

/-! ## Fields -/

/-- An escaped field is read up to the delimiter behind it, and no further. -/
theorem unpack_escaped_append (hd : d ≠ escape) : ∀ (value rest : List Char),
    unpack d (escaped d value ++ d :: rest) = (value, rest)
  | [], rest => by rw [escaped, List.nil_append, unpack_delimiter hd]
  | c :: cs, rest => by
      have ih := unpack_escaped_append hd cs rest
      by_cases hc : c = d ∨ c = escape
      · -- the escape in front keeps the reader from looking at `c` at all
        rw [escaped, if_pos hc, List.cons_append, List.cons_append, unpack_escape, ih]
      · obtain ⟨hcd, hce⟩ := not_or.mp hc
        rw [escaped, if_neg hc, List.cons_append, unpack_plain hce hcd, ih]

theorem unpack_pack_append (hd : d ≠ escape) (value rest : List Char) :
    unpack d (pack d value ++ rest) = (value, rest) := by
  rw [pack, List.append_assoc, List.singleton_append, unpack_escaped_append hd]

/-- **A packed field is uniquely readable.** -/
theorem pack_append_inj (hd : d ≠ escape) {v w s t : List Char}
    (h : pack d v ++ s = pack d w ++ t) : v = w ∧ s = t := by
  have hv := unpack_pack_append hd v s
  rw [h, unpack_pack_append hd w t] at hv
  exact ⟨(Prod.mk.inj hv).1.symm, (Prod.mk.inj hv).2.symm⟩

theorem pack_ne_nil (value : List Char) : pack d value ≠ [] := by
  rw [pack]; exact List.append_ne_nil_of_right_ne_nil _ (List.cons_ne_nil _ _)

/-! ## Lists -/

/-- Texts come back from their characters. -/
theorem map_ofList_map_toList (texts : List String) :
    (texts.map String.toList).map String.ofList = texts := by
  rw [List.map_map]
  exact (List.map_congr_left (fun s _ => String.ofList_toList)).trans (List.map_id texts)

/-- One field more in front of what is to be read. -/
theorem unpackMany_succ {count : Nat} {text : List Char} (h : text ≠ []) :
    unpackMany d (count + 1) text =
      ((unpack d text).1 :: (unpackMany d count (unpack d text).2).1,
        (unpackMany d count (unpack d text).2).2) := by
  cases text with
  | nil => exact absurd rfl h
  | cons c cs => rfl

theorem unpackMany_packed_append (hd : d ≠ escape) : ∀ (values : List (List Char))
    (rest : List Char),
    unpackMany d values.length ((values.map (pack d)).flatten ++ rest) = (values, rest)
  | [], _ => rfl
  | v :: vs, rest => by
      have ih := unpackMany_packed_append hd vs rest
      rw [List.map_cons, List.flatten_cons, List.append_assoc, List.length_cons,
        unpackMany_succ (List.append_ne_nil_of_left_ne_nil (pack_ne_nil v) _),
        unpack_pack_append hd, ih]

/-- Where there is a count, so many fields are read. -/
theorem unpackList?_counted {text : List Char} {n : Nat}
    (h : listCount? (unpack d text).1 = some n) :
    unpackList? d text = some (unpackMany d n (unpack d text).2) := by
  unfold unpackList?
  simp only [h, Option.map_some]

theorem unpackList_counted {text : List Char} {n : Nat}
    (h : listCount? (unpack d text).1 = some n) :
    unpackList d text = unpackMany d n (unpack d text).2 := by
  rw [unpackList, unpackList?_counted h, Option.getD_some]

/-- **A packed list is read back** if its length is a word, as the lengths of lists in memory are.
-/
theorem unpackList?_packList_append (hd : d ≠ escape) {values : List (List Char)}
    (hlen : values.length < UInt64.size) (rest : List Char) :
    unpackList? d (packList d values ++ rest) = some (values, rest) := by
  have hcount : listCount? (Text.decimal values.length) = some values.length :=
    Text.natural?_decimal (by omega)
  have hfield := unpack_pack_append hd (Text.decimal values.length)
    ((values.map (pack d)).flatten ++ rest)
  rw [packList, List.append_assoc, unpackList?_counted (by rw [hfield]; exact hcount), hfield,
    unpackMany_packed_append hd values rest]

theorem unpackList_packList_append (hd : d ≠ escape) {values : List (List Char)}
    (hlen : values.length < UInt64.size) (rest : List Char) :
    unpackList d (packList d values ++ rest) = (values, rest) := by
  rw [unpackList, unpackList?_packList_append hd hlen, Option.getD_some]

/-- Elements of equal number that are packed alike are alike. -/
theorem packed_append_inj (hd : d ≠ escape) : ∀ {vs ws : List (List Char)} {s t : List Char},
    vs.length = ws.length →
    (vs.map (pack d)).flatten ++ s = (ws.map (pack d)).flatten ++ t → vs = ws ∧ s = t := by
  intro vs ws s t hlen h
  -- the reader cannot tell the two texts apart, and finds the elements of either
  have hv := unpackMany_packed_append hd vs s
  rw [h, hlen, unpackMany_packed_append hd ws t] at hv
  exact ⟨(Prod.mk.inj hv).1.symm, (Prod.mk.inj hv).2.symm⟩

/-- **A packed list is uniquely readable**, however long it is. -/
theorem packList_append_inj (hd : d ≠ escape) {vs ws : List (List Char)} {s t : List Char}
    (h : packList d vs ++ s = packList d ws ++ t) : vs = ws ∧ s = t := by
  rw [packList, packList, List.append_assoc, List.append_assoc] at h
  obtain ⟨hcount, hrest⟩ := pack_append_inj hd h
  exact packed_append_inj hd (Text.decimal_injective hcount) hrest

end Harvest.Packing
