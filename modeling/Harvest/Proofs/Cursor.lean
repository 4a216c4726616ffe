import Harvest.Proofs.Packing

/-!
# A cursor in packed text

Packed text is also read by byte offset: a reader starts at an offset and answers the offset after
what it has read, where the next one starts. Offsets count bytes while escaping goes by characters,
so a cursor is worth something only as long as it stands where a character starts. There it is as
good as the text itself: what is read at the offset is what is read from the text behind it
(`unpackAt_append`, `unpackListAt_append`).

What was packed somewhere in a text is read back at its offset, and the cursor then stands at its
end (`Item.readAt_packed`). Hence fields and lists that were packed one after the other are read
back in order by a cursor that goes from each to the next (`Item.readAllAt_packAll`). Of the
delimiter nothing is asked but that it is not the escape: it may be a digit of a count, a sign, or
several bytes long.
-/

namespace Harvest

namespace Text

/-- Offsets count the bytes of strings. -/
theorem utf8ByteSize_ofList (cs : List Char) : (String.ofList cs).utf8ByteSize = byteLength cs := by
  induction cs with
  | nil => rfl
  | cons c cs ih =>
      have hsplit : String.ofList (c :: cs) = String.ofList [c] ++ String.ofList cs := by
        rw [← String.ofList_append, List.singleton_append]
      rw [hsplit, String.utf8ByteSize_append, ih]
      simp [byteLength]

theorem byteLength_toList (s : String) : byteLength s.toList = s.utf8ByteSize := by
  rw [← utf8ByteSize_ofList, String.ofList_toList]

end Text

namespace Packing

open Text

variable {d : Char}

/-! ## Reading at an offset -/

theorem offsetOf_append (before rest : List Char) :
    offsetOf (before ++ rest) rest = byteLength before := by
  have hlength := byteLength_append before rest
  unfold offsetOf
  omega

/-- The field at an offset is the field at the front of what starts there. -/
theorem unpackAt_append (before text : List Char) :
    unpackAt d (before ++ text) (byteLength before) =
      ((unpack d text).1, offsetOf (before ++ text) (unpack d text).2) := by
  unfold unpackAt
  rw [dropBytes?_append]

/-- The list at an offset is the list at the front of what starts there. -/
theorem unpackListAt_append (before : List Char) {text rest : List Char}
    {values : List (List Char)} (h : unpackList? d text = some (values, rest)) :
    unpackListAt d (before ++ text) (byteLength before) =
      (values, offsetOf (before ++ text) rest) := by
  unfold unpackListAt
  rw [dropBytes?_append, Option.bind_some, h]

/-- What was packed behind `before` ends where `after` starts. -/
theorem offsetOf_packed (before packed after : List Char) :
    offsetOf (before ++ (packed ++ after)) after = byteLength (before ++ packed) := by
  rw [← List.append_assoc, offsetOf_append]

theorem unpackAt_packed (hd : d ≠ escape) (before value after : List Char) :
    unpackAt d (before ++ (pack d value ++ after)) (byteLength before) =
      (value, byteLength (before ++ pack d value)) := by
  rw [unpackAt_append, unpack_pack_append hd, offsetOf_packed]

theorem unpackListAt_packed (hd : d ≠ escape) (before : List Char) {values : List (List Char)}
    (hlen : values.length < UInt64.size) (after : List Char) :
    unpackListAt d (before ++ (packList d values ++ after)) (byteLength before) =
      (values, byteLength (before ++ packList d values)) := by
  rw [unpackListAt_append before (unpackList?_packList_append hd hlen after), offsetOf_packed]

/-! ## One item after the other -/

/-- What is packed at one go: a field or a list. -/
inductive Item where
  | field (value : String)
  | list (values : List String)
deriving DecidableEq, Repr

namespace Item

/-- What a reader has to know of an item. -/
inductive Kind where
  | field
  | list
deriving DecidableEq, Repr

/-- Whether the item is a field or a list. -/
def kind : Item → Kind
  | field _ => .field
  | list _ => .list

/-- The item as it is packed. -/
def packed (d : Char) : Item → List Char
  | field value => pack d value.toList
  | list values => packList d (values.map String.toList)

/-- A list is of a length that a word can hold, as lists in memory are. -/
def Fits : Item → Prop
  | field _ => True
  | list values => values.length < UInt64.size

instance : (i : Item) → Decidable i.Fits
  | field _ => inferInstanceAs (Decidable True)
  | list values => inferInstanceAs (Decidable (values.length < UInt64.size))

/-- The item of the given kind at a byte offset, and the offset after it. -/
def readAt (d : Char) (text : List Char) : Kind → Nat → Item × Nat
  | .field, start =>
    let read := unpackAt d text start
    (field (String.ofList read.1), read.2)
  | .list, start =>
    let read := unpackListAt d text start
    (list (read.1.map String.ofList), read.2)

/-- Items as they are packed one after the other. -/
def packAll (d : Char) (items : List Item) : List Char := (items.map (packed d)).flatten

/-- Items of the given kinds, each at the offset at which the one before it has ended, and the
offset after the last. -/
def readAllAt (d : Char) (text : List Char) : List Kind → Nat → List Item × Nat
  | [], start => ([], start)
  | kind :: kinds, start =>
    let first := readAt d text kind start
    let others := readAllAt d text kinds first.2
    (first.1 :: others.1, others.2)

theorem packAll_cons (i : Item) (items : List Item) :
    packAll d (i :: items) = i.packed d ++ packAll d items := rfl

/-- **An item is read back at its offset**, and the cursor stands behind it. -/
theorem readAt_packed (hd : d ≠ escape) {i : Item} (hi : i.Fits) (before after : List Char) :
    readAt d (before ++ (i.packed d ++ after)) i.kind (byteLength before) =
      (i, byteLength (before ++ i.packed d)) := by
  cases i with
  | field value =>
      simp only [kind, packed, readAt, unpackAt_packed hd, String.ofList_toList]
  | list values =>
      have hlen : (values.map String.toList).length < UInt64.size := by
        rw [List.length_map]
        exact hi
      simp only [kind, packed, readAt, unpackListAt_packed hd before hlen, map_ofList_map_toList]

/-- The induction is on the items; each leaves the cursor where the next one was packed. -/
theorem readAllAt_packAll (hd : d ≠ escape) (after : List Char) : ∀ {items : List Item},
    (∀ i ∈ items, i.Fits) → ∀ before : List Char,
      readAllAt d (before ++ (packAll d items ++ after)) (items.map kind) (byteLength before) =
        (items, byteLength (before ++ packAll d items))
  | [], _, before => by
      have hnone : packAll d [] = [] := rfl
      rw [hnone, List.append_nil]
      rfl
  | i :: items, hfits, before => by
      have hfirst := readAt_packed hd (hfits i List.mem_cons_self) before (packAll d items ++ after)
      have hothers := readAllAt_packAll hd after
        (fun j hj => hfits j (List.mem_cons_of_mem i hj)) (before ++ i.packed d)
      simp only [List.append_assoc] at hothers
      rw [packAll_cons, List.append_assoc, List.map_cons, readAllAt]
      simp only [hfirst, hothers]

end Item

/-- **Packed text is read back where it was packed.** Whatever stands in front of it and behind it,
a field is read at the offset at which it was packed, a list likewise, and any sequence of fields
and lists by a cursor that starts there; and the offset that is answered is that of what stands
behind. -/
theorem packed_read_back (hd : d ≠ escape) (before after : String) :
    (∀ value : String,
      let packed := String.ofList (pack d value.toList)
      unpackAt d (before ++ packed ++ after).toList before.utf8ByteSize =
        (value.toList, (before ++ packed).utf8ByteSize)) ∧
    (∀ values : List String, values.length < UInt64.size →
      let packed := String.ofList (packList d (values.map String.toList))
      unpackListAt d (before ++ packed ++ after).toList before.utf8ByteSize =
        (values.map String.toList, (before ++ packed).utf8ByteSize)) ∧
    ∀ items : List Item, (∀ i ∈ items, i.Fits) →
      let packed := String.ofList (Item.packAll d items)
      Item.readAllAt d (before ++ packed ++ after).toList (items.map Item.kind)
        before.utf8ByteSize = (items, (before ++ packed).utf8ByteSize) := by
  have htext : ∀ packed : List Char, (before ++ String.ofList packed ++ after).toList =
      before.toList ++ (packed ++ after.toList) := by
    intro packed
    rw [String.toList_append, String.toList_append, String.toList_ofList, List.append_assoc]
  have hend : ∀ packed : List Char, (before ++ String.ofList packed).utf8ByteSize =
      byteLength (before.toList ++ packed) := by
    intro packed
    rw [← byteLength_toList, String.toList_append, String.toList_ofList]
  refine ⟨fun value => ?_, fun values hlen => ?_, fun items hfits => ?_⟩
  · dsimp only
    rw [htext, hend, ← byteLength_toList before]
    exact unpackAt_packed hd before.toList value.toList after.toList
  · have hchars : (values.map String.toList).length < UInt64.size := by
      rw [List.length_map]
      exact hlen
    dsimp only
    rw [htext, hend, ← byteLength_toList before]
    exact unpackListAt_packed hd before.toList hchars after.toList
  · dsimp only
    rw [htext, hend, ← byteLength_toList before]
    exact Item.readAllAt_packAll hd after.toList hfits before.toList

/-- Fields and lists full of digits and escapes, with a digit for the delimiter. -/
def sampleItems : List Item := [.field "2\\2", .list ["", "22", "a2"], .list [], .field "ä"]

theorem packed_read_back_digits :
    '2' ≠ escape ∧ (∀ i ∈ sampleItems, i.Fits) ∧
      Item.readAllAt '2' ("ö\\" ++ String.ofList (Item.packAll '2' sampleItems) ++ "\\2").toList
        [.field, .list, .list, .field] 3 = (sampleItems, 27) := by
  have hd : '2' ≠ escape := by decide
  have hfits : ∀ i ∈ sampleItems, i.Fits := by decide
  have hend : ("ö\\" ++ String.ofList (Item.packAll '2' sampleItems)).utf8ByteSize = 27 := by
    decide +kernel
  exact ⟨hd, hfits, hend ▸ (packed_read_back hd "ö\\" "\\2").2.2 sampleItems hfits⟩

end Packing

end Harvest
