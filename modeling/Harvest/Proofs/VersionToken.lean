import Harvest.Proofs.Packing
import Harvest.Version.Token

/-!
# Tokens and the versions they stand for

A token is nine fields, three of them in groups that may be missing, with one character serving as
delimiter and as the mark of a group that is there. Nothing in front says how long a token is. Still
a token says where it ends, and what it stands for, whatever text comes behind it:

* every part of a token is **uniquely readable** (`encode_append_inj`), so two versions never share
  a token and no token goes on where another ends;
* the reader finds that version (`decode_encode_append`), as long as the access lists are lists that
  a word can count. Longer ones have tokens of their own, but the reader refuses their count.
-/

namespace Harvest

/-- Both lists are of a length that a word can hold, as lists in memory are. -/
def AccessList.Fits (a : AccessList) : Prop :=
  a.allow.length < UInt64.size ∧ a.deny.length < UInt64.size

/-- The access lists that are there fit. -/
def Version.Fits (v : Version) : Prop :=
  (∀ a, v.containerAccess = some a → a.Fits) ∧ ∀ a, v.entryAccess = some a → a.Fits

namespace Version

theorem delimiter_ne_escape : delimiter ≠ Packing.escape := by decide

theorem present_ne_absent : present ≠ absent := by decide

/-- Texts with the same characters are the same. -/
theorem map_toList_inj {xs ys : List String} (h : xs.map String.toList = ys.map String.toList) :
    xs = ys := by
  rw [← Packing.map_ofList_map_toList xs, h, Packing.map_ofList_map_toList]

/-! ## Each part is uniquely readable -/

theorem packText_append_inj {s t : String} {x y : List Char}
    (h : packText s ++ x = packText t ++ y) : s = t ∧ x = y := by
  obtain ⟨hst, hxy⟩ := Packing.pack_append_inj delimiter_ne_escape h
  exact ⟨String.toList_inj.mp hst, hxy⟩

theorem encodeAccess_append_inj {a b : AccessList} {x y : List Char}
    (h : encodeAccess a ++ x = encodeAccess b ++ y) : a = b ∧ x = y := by
  rw [encodeAccess, encodeAccess, List.append_assoc, List.append_assoc] at h
  obtain ⟨hallow, hrest⟩ := Packing.packList_append_inj delimiter_ne_escape h
  obtain ⟨hdeny, hxy⟩ := Packing.packList_append_inj delimiter_ne_escape hrest
  cases a
  cases b
  rw [AccessList.mk.injEq]
  exact ⟨⟨map_toList_inj hallow, map_toList_inj hdeny⟩, hxy⟩

theorem encodeAttribute_append_inj {a b : PathAttribute} {x y : List Char}
    (h : encodeAttribute a ++ x = encodeAttribute b ++ y) : a = b ∧ x = y := by
  rw [encodeAttribute, encodeAttribute, List.append_assoc, List.append_assoc] at h
  obtain ⟨hname, hrest⟩ := packText_append_inj h
  obtain ⟨hvalue, hxy⟩ := packText_append_inj hrest
  cases a
  cases b
  rw [PathAttribute.mk.injEq]
  exact ⟨⟨hname, hvalue⟩, hxy⟩

/-- A group is uniquely readable if its body is: the mark tells the two forms apart. -/
theorem encodeGroup_append_inj {α : Type} {body : α → List Char}
    (hbody : ∀ {a b : α} {x y : List Char}, body a ++ x = body b ++ y → a = b ∧ x = y)
    {g k : Option α} {x y : List Char} (h : encodeGroup body g ++ x = encodeGroup body k ++ y) :
    g = k ∧ x = y := by
  cases g with
  | none =>
      cases k with
      | none => exact ⟨rfl, by simpa [encodeGroup] using h⟩
      | some b =>
          -- the marks differ, whatever the body
          simp only [encodeGroup, List.cons_append] at h
          exact absurd (List.cons.inj h).1.symm present_ne_absent
  | some a =>
      cases k with
      | none =>
          simp only [encodeGroup, List.cons_append] at h
          exact absurd (List.cons.inj h).1 present_ne_absent
      | some b =>
          simp only [encodeGroup, List.cons_append] at h
          obtain ⟨hab, hxy⟩ := hbody (List.cons.inj h).2
          exact ⟨congrArg some hab, hxy⟩

theorem letter_injective {a b : Ambiguity} (h : a.letter = b.letter) : a = b := by
  cases a <;> cases b <;> first | rfl | exact absurd h (by decide)

/-- The parts of a token in front of whatever follows it. -/
theorem encode_append (v : Version) (s : List Char) :
    v.encode ++ s =
      encodeGroup encodeAccess v.containerAccess ++
        (encodeGroup encodeAccess v.entryAccess ++
          (encodeGroup encodeAttribute v.pathAttribute ++
            (packText v.uri ++
              (Packing.pack delimiter (Text.signedDecimal v.modified.toInt) ++
                (Packing.pack delimiter (Text.decimal v.length.toNat) ++
                  (v.ambiguity.letter :: s)))))) := by
  simp only [encode, List.append_assoc, List.singleton_append]

/-- **A token is uniquely readable.** -/
theorem encode_append_inj {v w : Version} {s t : List Char}
    (h : v.encode ++ s = w.encode ++ t) : v = w ∧ s = t := by
  rw [encode_append, encode_append] at h
  -- one part after the other, each leaving the rest to the next
  obtain ⟨hcontainer, h⟩ := encodeGroup_append_inj encodeAccess_append_inj h
  obtain ⟨hentry, h⟩ := encodeGroup_append_inj encodeAccess_append_inj h
  obtain ⟨hattribute, h⟩ := encodeGroup_append_inj encodeAttribute_append_inj h
  obtain ⟨huri, h⟩ := packText_append_inj h
  obtain ⟨hmodified, h⟩ := Packing.pack_append_inj delimiter_ne_escape h
  obtain ⟨hlength, h⟩ := Packing.pack_append_inj delimiter_ne_escape h
  obtain ⟨hletter, hst⟩ := List.cons.inj h
  refine ⟨?_, hst⟩
  cases v
  cases w
  rw [Version.mk.injEq]
  exact ⟨hcontainer, hentry, hattribute, huri,
    Int64.toInt_inj.mp (Text.signedDecimal_injective hmodified),
    UInt64.toNat_inj.mp (Text.decimal_injective hlength), letter_injective hletter⟩

/-! ## Each part is read back -/

theorem decodeAccess_encodeAccess_append {a : AccessList} (h : a.Fits) (rest : List Char) :
    decodeAccess (encodeAccess a ++ rest) = (a, rest) := by
  have hallow : (a.allow.map String.toList).length < UInt64.size := by
    rw [List.length_map]; exact h.1
  have hdeny : (a.deny.map String.toList).length < UInt64.size := by
    rw [List.length_map]; exact h.2
  rw [encodeAccess, List.append_assoc, decodeAccess]
  simp only [Packing.unpackList_packList_append delimiter_ne_escape hallow,
    Packing.unpackList_packList_append delimiter_ne_escape hdeny, Packing.map_ofList_map_toList]

theorem decodeAttribute_encodeAttribute_append (a : PathAttribute) (rest : List Char) :
    decodeAttribute (encodeAttribute a ++ rest) = (a, rest) := by
  rw [encodeAttribute, List.append_assoc, decodeAttribute]
  simp only [packText, Packing.unpack_pack_append delimiter_ne_escape, String.ofList_toList]

theorem decodeGroup_encodeGroup_append {α : Type} {body : α → List Char}
    {read : List Char → α × List Char} {g : Option α}
    (hread : ∀ a, g = some a → ∀ rest, read (body a ++ rest) = (a, rest)) (rest : List Char) :
    decodeGroup read (encodeGroup body g ++ rest) = (g, rest) := by
  cases g with
  | none =>
      simp only [encodeGroup, List.singleton_append, decodeGroup, takeMark,
        if_neg present_ne_absent.symm, if_true, Bool.false_eq_true, if_false]
  | some a =>
      simp only [encodeGroup, List.cons_append, decodeGroup, takeMark, if_true, hread a rfl rest]

theorem ofLetter?_letter (a : Ambiguity) : Ambiguity.ofLetter? a.letter = some a := by
  cases a <;> rfl

/-- **The reader finds the version of a token**, whatever follows the token. -/
theorem decode_encode_append {v : Version} (h : v.Fits) (rest : List Char) :
    decode (v.encode ++ rest) = v := by
  have hcontainer := decodeGroup_encodeGroup_append
    (fun a ha => decodeAccess_encodeAccess_append (h.1 a ha))
  have hentry := decodeGroup_encodeGroup_append
    (fun a ha => decodeAccess_encodeAccess_append (h.2 a ha))
  have hattribute := decodeGroup_encodeGroup_append (g := v.pathAttribute)
    (fun a _ => decodeAttribute_encodeAttribute_append a)
  rw [encode_append, decode]
  simp only [hcontainer, hentry, hattribute, packText,
    Packing.unpack_pack_append delimiter_ne_escape, String.ofList_toList,
    Text.int64?_signedDecimal, Text.uint64?_decimal, Option.getD_some, List.head?_cons,
    Option.bind_some, ofLetter?_letter]

/-! ## Tokens as texts -/

theorem toList_token (v : Version) : v.token.toList = v.encode := String.toList_ofList

theorem token_inj {v w : Version} (h : v.token = w.token) : v = w := by
  have hchars : v.encode ++ [] = w.encode ++ [] := by
    rw [← toList_token v, ← toList_token w, h]
  exact (encode_append_inj hchars).1

/--
**Tokens and versions.**

The version of a token is read back from it, whatever text follows; two versions never share a
token; and a token that starts with another is that other.
-/
theorem ofToken_token_append :
    (∀ v : Version, v.Fits → ∀ s : String, ofToken (v.token ++ s) = v) ∧
    (∀ v w : Version, v.token = w.token → v = w) ∧
    ∀ (v w : Version) (s : String), v.token ++ s = w.token → s = "" := by
  refine ⟨?_, fun v w => token_inj, ?_⟩
  · intro v hv s
    rw [ofToken, String.toList_append, toList_token, decode_encode_append hv]
  · intro v w s h
    have hchars : v.encode ++ s.toList = w.encode ++ [] := by
      rw [← toList_token v, ← toList_token w, ← String.toList_append, h, List.append_nil]
    exact String.toList_inj.mp (encode_append_inj hchars).2

/-- A version whose values hold delimiters, escapes, digits and signs. -/
def sample : Version where
  containerAccess := none
  entryAccess := some ⟨["S-1-1-0", "a+b", "2+"], ["DEAD_AUTHORITY"]⟩
  pathAttribute := some ⟨"path", "docs\\ä-b.pdf+"⟩
  uri := "file:////docs/a-b.pdf"
  modified := -1700000000000
  length := 42
  ambiguity := .dependsOnContent

theorem sample_fits : sample.Fits := by
  refine ⟨fun a h => ?_, fun a h => ?_⟩
  · cases h
  · cases h; exact ⟨by decide, by decide⟩

theorem ofToken_token_append_sample :
    sample.Fits ∧ ofToken (sample.token ++ "+7+\\") = sample :=
  ⟨sample_fits, ofToken_token_append.1 sample sample_fits "+7+\\"⟩

end Version

end Harvest
