import Harvest.Proofs.Cursor
import Harvest.Version.Token

/-!
# A cursor in any text

Tokens come back from a store, and nothing says that they are what was put there: they may break
off behind an escape, announce more values than there are bytes, or have characters of several bytes
anywhere. A cursor in such a text is safe for one reason: what a reader leaves is an end of what it
was given (`unpack_suffix`, `unpackMany_suffix`). So a cursor that stands where a character starts
goes on to where one starts, never back and never past the end.

The reader of versions is written here once more, with a cursor that keeps a record of the places it
has been at (`Version.decodeAt`). It follows the reader that goes from rest to rest
(`Follows`), and its record says where the cursor stands at every step.
-/

namespace Harvest

namespace Text

variable {text rest rest' : List Char} {offset : Nat}

/-! ## Places in a text -/

/-- A place splits the text, and its offset is the length of what is before it. -/
theorem dropBytes?_eq_some_iff :
    dropBytes? text offset = some rest ↔
      ∃ before, text = before ++ rest ∧ byteLength before = offset := by
  constructor
  · fun_induction dropBytes? text offset with
    | case1 cs =>
        intro h
        exact ⟨[], Option.some.inj h, rfl⟩
    | case2 n =>
        intro h
        exact absurd h (Option.some_ne_none _).symm
    | case3 c cs n hc ih =>
        intro h
        obtain ⟨before, hsplit, hbefore⟩ := ih h
        refine ⟨c :: before, by rw [hsplit, List.cons_append], ?_⟩
        rw [byteLength, hbefore]
        omega
    | case4 c cs n hc =>
        intro h
        exact absurd h (Option.some_ne_none _).symm
  · rintro ⟨before, rfl, rfl⟩
    exact dropBytes?_append before rest

theorem length_le_byteLength : ∀ cs : List Char, cs.length ≤ byteLength cs
  | [] => Nat.le_refl 0
  | c :: cs => by
      have ih := length_le_byteLength cs
      have hc := Char.utf8Size_pos c
      rw [List.length_cons, byteLength]
      omega

/-- An end of a text is as much shorter in bytes as in characters, or more. -/
theorem byteLength_suffix (h : rest' <:+ rest) :
    byteLength rest' + (rest.length - rest'.length) ≤ byteLength rest := by
  obtain ⟨passed, rfl⟩ := h
  have hpassed := length_le_byteLength passed
  rw [byteLength_append, List.length_append]
  omega

/-- The offset is a position of the string: a character starts there, or it is the end. -/
def Boundary (token : String) (offset : Nat) : Prop := (String.Pos.Raw.mk offset).IsValid token

instance (token : String) (offset : Nat) : Decidable (Boundary token offset) :=
  inferInstanceAs (Decidable (String.Pos.Raw.IsValid token ⟨offset⟩))

/-- The positions of a string are the places of its characters. -/
theorem boundary_iff {token : String} :
    Boundary token offset ↔ ∃ rest, dropBytes? token.toList offset = some rest := by
  rw [Boundary, String.Pos.Raw.isValid_iff_exists_append]
  constructor
  · rintro ⟨s₁, s₂, rfl, hp⟩
    refine ⟨s₂.toList, dropBytes?_eq_some_iff.mpr ⟨s₁.toList, String.toList_append, ?_⟩⟩
    rw [byteLength_toList, ← String.byteIdx_rawEndPos, ← hp]
  · rintro ⟨rest, h⟩
    obtain ⟨before, hsplit, hbefore⟩ := dropBytes?_eq_some_iff.mp h
    refine ⟨String.ofList before, String.ofList rest, ?_, ?_⟩
    · rw [← String.ofList_append, ← hsplit, String.ofList_toList]
    · rw [String.Pos.Raw.ext_iff, String.byteIdx_rawEndPos, utf8ByteSize_ofList, hbefore]

end Text

namespace Packing

open Text

variable {d : Char} {text rest rest' : List Char} {start : Nat}

/-! ## What is left is an end of what was there -/

/-- The first character is gone in any case. -/
theorem unpack_suffix_tail (d : Char) (text : List Char) : (unpack d text).2 <:+ text.tail := by
  fun_induction unpack d text with
  | case1 => exact List.suffix_rfl
  | case2 => exact List.suffix_rfl
  | case3 e rest ih => exact ih.trans ((List.tail_suffix rest).trans (List.suffix_cons e rest))
  | case4 cs => exact List.suffix_rfl
  | case5 c cs _ _ ih => exact ih.trans (List.tail_suffix cs)

theorem unpack_suffix (d : Char) (text : List Char) : (unpack d text).2 <:+ text :=
  (unpack_suffix_tail d text).trans (List.tail_suffix text)

/-- A field takes something of a text that is not at its end. -/
theorem unpack_shorter (h : text ≠ []) : (unpack d text).2.length < text.length := by
  have hle := (unpack_suffix_tail d text).length_le
  have hpos := List.length_pos_iff.mpr h
  rw [List.length_tail] at hle
  omega

theorem unpackMany_suffix : ∀ (count : Nat) (text : List Char),
    (unpackMany d count text).2 <:+ text
  | 0, _ => List.suffix_rfl
  | _ + 1, [] => List.suffix_rfl
  | count + 1, c :: cs =>
      (unpackMany_suffix count (unpack d (c :: cs)).2).trans (unpack_suffix d (c :: cs))

/-- Every value takes a character at least, so a count is met or the text used up. -/
theorem unpackMany_length : ∀ (count : Nat) (text : List Char),
    (unpackMany d count text).1.length ≤ count ∧
      (unpackMany d count text).1.length + (unpackMany d count text).2.length ≤ text.length
  | 0, text => ⟨Nat.le_refl 0, by simp [unpackMany]⟩
  | _ + 1, [] => ⟨Nat.zero_le _, by simp [unpackMany]⟩
  | count + 1, c :: cs => by
      obtain ⟨hcount, htext⟩ := unpackMany_length count (unpack d (c :: cs)).2
      have hfirst := unpack_shorter (d := d) (List.cons_ne_nil c cs)
      rw [unpackMany_succ (List.cons_ne_nil c cs)]
      dsimp only
      rw [List.length_cons]
      omega

/-- Where there is no count, nothing is taken. -/
theorem unpackList_uncounted (h : listCount? (unpack d text).1 = none) :
    unpackList d text = ([], text) := by
  rw [unpackList, unpackList?, h, Option.map_none, Option.getD_none]

theorem unpackList_suffix (d : Char) (text : List Char) : (unpackList d text).2 <:+ text := by
  cases hcount : listCount? (unpack d text).1 with
  | none =>
      simp only [unpackList_uncounted hcount, List.suffix_rfl]
  | some count =>
      rw [unpackList_counted hcount]
      exact (unpackMany_suffix count _).trans (unpack_suffix d text)

/-- A count is a bound, and so is the text, however large the count. -/
theorem unpackList_length {count : Nat} (h : listCount? (unpack d text).1 = some count) :
    (unpackList d text).1.length ≤ count ∧ (unpackList d text).1.length ≤ text.length := by
  obtain ⟨hcount, hmany⟩ := unpackMany_length (d := d) count (unpack d text).2
  have hfield := (unpack_suffix d text).length_le
  rw [unpackList_counted h]
  exact ⟨hcount, by omega⟩

/-! ## Reading at any offset -/

/-- What is left is found at the offset that is answered. -/
theorem dropBytes?_offsetOf (h : rest <:+ text) :
    dropBytes? text (offsetOf text rest) = some rest := by
  obtain ⟨before, rfl⟩ := h
  rw [offsetOf_append, dropBytes?_append]

theorem offsetOf_of_dropBytes? (h : dropBytes? text start = some rest) :
    rest <:+ text ∧ offsetOf text rest = start := by
  obtain ⟨before, rfl, rfl⟩ := dropBytes?_eq_some_iff.mp h
  exact ⟨List.suffix_append before rest, offsetOf_append before rest⟩

/-- At a place the reader of offsets says what the reader of rests does. -/
theorem unpackAt_of_dropBytes? (h : dropBytes? text start = some rest) :
    unpackAt d text start = ((unpack d rest).1, offsetOf text (unpack d rest).2) := by
  unfold unpackAt
  rw [h]

theorem unpackListAt_of_dropBytes? (h : dropBytes? text start = some rest) :
    unpackListAt d text start = ((unpackList d rest).1, offsetOf text (unpackList d rest).2) := by
  unfold unpackListAt unpackList
  rw [h, Option.bind_some]
  cases unpackList? d rest with
  | none =>
      -- the offset stays, and is the one at which the rest was found
      rw [Option.getD_none, (offsetOf_of_dropBytes? h).2]
  | some read => rfl

/-- Bytes before a place and bytes behind it are all there are. -/
theorem add_byteLength (h : dropBytes? text start = some rest) :
    start + byteLength rest = byteLength text := by
  obtain ⟨before, rfl, rfl⟩ := dropBytes?_eq_some_iff.mp h
  rw [byteLength_append]

/-- Only the end of a text has nothing behind it. -/
theorem eq_byteLength_iff (h : dropBytes? text start = some rest) :
    start = byteLength text ↔ rest = [] := by
  have hsum := add_byteLength h
  have hlength := length_le_byteLength rest
  constructor
  · intro hend
    exact List.length_eq_zero_iff.mp (by omega)
  · rintro rfl
    exact hsum

/-- Reading goes forward by a byte at least for every character it takes. -/
theorem add_le_offsetOf (h : dropBytes? text start = some rest) (hrest : rest' <:+ rest) :
    start + (rest.length - rest'.length) ≤ offsetOf text rest' := by
  have hsum := add_byteLength h
  have hread := byteLength_suffix hrest
  unfold offsetOf
  omega

theorem boundary_of_dropBytes? {token : String} (h : dropBytes? token.toList start = some rest) :
    Boundary token start ∧ start + byteLength rest = token.utf8ByteSize :=
  ⟨boundary_iff.mpr ⟨rest, h⟩, (add_byteLength h).trans (byteLength_toList token)⟩

/-- Reading leaves off at a position of the string, as far on as it has taken characters. -/
theorem boundary_offsetOf {token : String} (h : dropBytes? token.toList start = some rest)
    (hrest : rest' <:+ rest) :
    Boundary token (offsetOf token.toList rest') ∧
      start + (rest.length - rest'.length) ≤ offsetOf token.toList rest' ∧
      offsetOf token.toList rest' ≤ token.utf8ByteSize := by
  have hplace := dropBytes?_offsetOf (hrest.trans (offsetOf_of_dropBytes? h).1)
  obtain ⟨hboundary, hsum⟩ := boundary_of_dropBytes? hplace
  exact ⟨hboundary, add_le_offsetOf h hrest, by omega⟩

/-- A field at a position of the string leads to one further on, unless there is nothing to read. -/
theorem unpackAt_boundary {token : String} (hstart : Boundary token start) :
    Boundary token (unpackAt d token.toList start).2 ∧
      start ≤ (unpackAt d token.toList start).2 ∧
      (unpackAt d token.toList start).2 ≤ token.utf8ByteSize ∧
      (start ≠ token.utf8ByteSize → start < (unpackAt d token.toList start).2) := by
  obtain ⟨rest, h⟩ := boundary_iff.mp hstart
  obtain ⟨hnext, hforward, hinside⟩ := boundary_offsetOf h (unpack_suffix d rest)
  rw [unpackAt_of_dropBytes? h]
  refine ⟨hnext, by omega, hinside, fun hnotEnd => ?_⟩
  have hrest : rest ≠ [] := fun hnil =>
    hnotEnd (((eq_byteLength_iff h).mpr hnil).trans (byteLength_toList token))
  have hshorter := unpack_shorter (d := d) hrest
  omega

/-- A list at a position of the string leads to one that is not before it. -/
theorem unpackListAt_boundary {token : String} (hstart : Boundary token start) :
    Boundary token (unpackListAt d token.toList start).2 ∧
      start ≤ (unpackListAt d token.toList start).2 ∧
      (unpackListAt d token.toList start).2 ≤ token.utf8ByteSize := by
  obtain ⟨rest, h⟩ := boundary_iff.mp hstart
  obtain ⟨hnext, hforward, hinside⟩ := boundary_offsetOf h (unpackList_suffix d rest)
  rw [unpackListAt_of_dropBytes? h]
  exact ⟨hnext, by omega, hinside⟩

theorem unpackListAt_uncounted {token : String} (hstart : Boundary token start)
    (hcount : listCount? (unpackAt d token.toList start).1 = none) :
    unpackListAt d token.toList start = ([], start) := by
  obtain ⟨rest, h⟩ := boundary_iff.mp hstart
  rw [unpackAt_of_dropBytes? h] at hcount
  rw [unpackListAt_of_dropBytes? h, unpackList_uncounted hcount, (offsetOf_of_dropBytes? h).2]

/-- There are no more values than announced, nor than there are bytes to read. -/
theorem unpackListAt_length {token : String} (hstart : Boundary token start) {count : Nat}
    (hcount : listCount? (unpackAt d token.toList start).1 = some count) :
    (unpackListAt d token.toList start).1.length ≤ min count (token.utf8ByteSize - start) := by
  obtain ⟨rest, h⟩ := boundary_iff.mp hstart
  rw [unpackAt_of_dropBytes? h] at hcount
  obtain ⟨hvalues, hrest⟩ := unpackList_length hcount
  have hsum := (boundary_of_dropBytes? h).2
  have hlength := length_le_byteLength rest
  rw [unpackListAt_of_dropBytes? h]
  exact Nat.le_min.mpr ⟨hvalues, Nat.le_trans hrest (by omega)⟩

/-- Off the positions of the string the reader gives up, at the end. -/
theorem unpackAt_off {token : String} (hstart : ¬ Boundary token start) :
    unpackAt d token.toList start = ([], token.utf8ByteSize) := by
  have hnone : dropBytes? token.toList start = none := by
    rw [Option.eq_none_iff_forall_ne_some]
    exact fun rest h => hstart (boundary_iff.mpr ⟨rest, h⟩)
  rw [unpackAt, hnone, byteLength_toList]

/-! ## A cursor with a record of its way -/

/-- A cursor, and the offsets it has been at before, the latest first. -/
structure Cursor where
  offset : Nat
  passed : List Nat
deriving DecidableEq, Repr

namespace Cursor

/-- The cursor in front of a text. -/
def front : Cursor := ⟨0, []⟩

/-- All offsets the cursor has been at, from the present one back. -/
def trail (c : Cursor) : List Nat := c.offset :: c.passed

/-- Goes to where a reader of offsets leaves off. -/
def step {α : Type} (read : Nat → α × Nat) : StateM Cursor α := fun c =>
  ((read c.offset).1, ⟨(read c.offset).2, c.trail⟩)

/-- The cursor stands where `rest` starts, has been at places of the text only, and has never gone
back. -/
structure At (text : List Char) (c : Cursor) (rest : List Char) : Prop where
  place : dropBytes? text c.offset = some rest
  places : ∀ p ∈ c.passed, ∃ r, dropBytes? text p = some r
  forward : c.trail.Pairwise (· ≥ ·)

theorem front_at (text : List Char) : front.At text text where
  place := by rw [front, dropBytes?]
  places := fun _ hp => absurd hp List.not_mem_nil
  forward := List.pairwise_singleton _ _

theorem At.mem_trail {c : Cursor} (h : c.At text rest) {p : Nat} (hp : p ∈ c.trail) :
    ∃ r, dropBytes? text p = some r := by
  rcases List.mem_cons.mp hp with rfl | hpassed
  · exact ⟨rest, h.place⟩
  · exact h.places p hpassed

/-- The cursor may go on to any place that is not before it. -/
theorem At.next {c : Cursor} (h : c.At text rest) {offset : Nat}
    (hplace : dropBytes? text offset = some rest') (hle : c.offset ≤ offset) :
    (Cursor.mk offset c.trail).At text rest' where
  place := hplace
  places := fun _ hp => h.mem_trail hp
  forward := by
    refine List.pairwise_cons.mpr ⟨fun p hp => ?_, h.forward⟩
    rcases List.mem_cons.mp hp with rfl | hpassed
    · exact hle
    · exact Nat.le_trans ((List.pairwise_cons.mp h.forward).1 p hpassed) hle

end Cursor

/-- With a cursor in `text`, `run` reads what `read` reads from rest to rest. -/
def Follows {α : Type} (text : List Char) (run : StateM Cursor α)
    (read : List Char → α × List Char) : Prop :=
  ∀ (c : Cursor) (rest : List Char), c.At text rest →
    (run.run c).1 = (read rest).1 ∧ (run.run c).2.At text (read rest).2

namespace Follows

variable {α β : Type} {run : StateM Cursor α} {read : List Char → α × List Char}

theorem pure (a : α) : Follows text (pure a) (fun rest => (a, rest)) :=
  fun _ _ hc => ⟨rfl, hc⟩

theorem bind {run' : α → StateM Cursor β} {read' : α → List Char → β × List Char}
    (h : Follows text run read) (h' : ∀ a, Follows text (run' a) (read' a)) :
    Follows text (run >>= run') (fun rest => read' (read rest).1 (read rest).2) := by
  intro c rest hc
  obtain ⟨hvalue, hat⟩ := h c rest hc
  have hnext := h' (run.run c).1 (run.run c).2 (read rest).2 hat
  dsimp only
  rw [← hvalue]
  exact hnext

/-- What is run may depend on where the cursor stands. -/
theorem get {run : Cursor → StateM Cursor α}
    (h : ∀ (c : Cursor) (rest : List Char), c.At text rest →
      ((run c).run c).1 = (read rest).1 ∧ ((run c).run c).2.At text (read rest).2) :
    Follows text (get >>= run) read := h

/-- A step is right if the reader of offsets is, at every place, and goes forward. -/
theorem step {readAt : Nat → α × Nat}
    (h : ∀ {start : Nat} {rest : List Char}, dropBytes? text start = some rest →
      (readAt start).1 = (read rest).1 ∧
        dropBytes? text (readAt start).2 = some (read rest).2 ∧ start ≤ (readAt start).2) :
    Follows text (Cursor.step readAt) read := by
  intro c rest hc
  obtain ⟨hvalue, hplace, hle⟩ := h hc.place
  exact ⟨hvalue, hc.next hplace hle⟩

end Follows

/-- Reads a field. -/
def fieldAt (d : Char) (text : List Char) : StateM Cursor (List Char) :=
  Cursor.step (unpackAt d text)

/-- Reads up to `count` fields; the end of the text is looked for before each. -/
def fieldsAt (d : Char) (text : List Char) : Nat → StateM Cursor (List (List Char))
  | 0 => return []
  | count + 1 => do
    if byteLength text ≤ (← get).offset then
      return []
    else
      let first ← fieldAt d text
      let others ← fieldsAt d text count
      return first :: others

/-- Reads a list; the cursor stays where it is if the count is malformed. -/
def listAt (d : Char) (text : List Char) : StateM Cursor (List (List Char)) := do
  match listCount? (unpackAt d text (← get).offset).1 with
  | none => return []
  | some count =>
    let _ ← fieldAt d text
    fieldsAt d text count

theorem fieldAt_follows (d : Char) (text : List Char) :
    Follows text (fieldAt d text) (unpack d) := by
  refine Follows.step fun {start rest} h => ?_
  have hrest := unpack_suffix d rest
  have hforward := add_le_offsetOf h hrest
  rw [unpackAt_of_dropBytes? h]
  exact ⟨rfl, dropBytes?_offsetOf (hrest.trans (offsetOf_of_dropBytes? h).1), by omega⟩

/-- The induction is on the count; the loop looks for the end by offset, the reader of rests by what
is left, and at a place the two are the same. -/
theorem fieldsAt_follows (d : Char) (text : List Char) : ∀ count : Nat,
    Follows text (fieldsAt d text count) (unpackMany d count)
  | 0 => Follows.pure []
  | count + 1 => by
      have hmore := (fieldAt_follows d text).bind fun first =>
        (fieldsAt_follows d text count).bind fun others => Follows.pure (first :: others)
      refine Follows.get fun c rest hc => ?_
      have hend := eq_byteLength_iff hc.place
      have hsum := add_byteLength hc.place
      cases rest with
      | nil =>
          rw [if_pos (Nat.le_of_eq (hend.mpr rfl).symm)]
          exact ⟨rfl, hc⟩
      | cons x xs =>
          have hgo : ¬ byteLength text ≤ c.offset := fun hstop =>
            List.cons_ne_nil x xs (hend.mp (by omega))
          rw [if_neg hgo]
          exact hmore c (x :: xs) hc

theorem listAt_follows (d : Char) (text : List Char) :
    Follows text (listAt d text) (unpackList d) := by
  refine Follows.get fun c rest hc => ?_
  rw [unpackAt_of_dropBytes? hc.place]
  cases hcount : listCount? (unpack d rest).1 with
  | none =>
      rw [unpackList_uncounted hcount]
      exact ⟨rfl, hc⟩
  | some count =>
      rw [unpackList_counted hcount]
      exact (fieldAt_follows d text).bind (fun _ => fieldsAt_follows d text count) c rest hc

end Packing

namespace Version

open Text Packing

variable {text : List Char}

/-! ## Versions -/

/-- The character at an offset, if one starts there. -/
def charAt? (text : List Char) (offset : Nat) : Option Char :=
  (dropBytes? text offset).bind List.head?

/-- A mark at an offset and the offset after it: one byte further, whatever the mark. -/
def takeMarkAt (text : List Char) (start : Nat) : Bool × Nat :=
  match charAt? text start with
  | none => (false, start)
  | some c =>
    if c = present then (true, start + 1) else if c = absent then (false, start + 1)
    else (false, start)

/-- Reads a mark, and the body if there is one. -/
def groupAt {α : Type} (text : List Char) (body : StateM Cursor α) : StateM Cursor (Option α) := do
  if ← Cursor.step (takeMarkAt text) then
    let a ← body
    return some a
  else
    return none

/-- Reads the two lists of an access list. -/
def accessAt (text : List Char) : StateM Cursor AccessList := do
  let allow ← listAt delimiter text
  let deny ← listAt delimiter text
  return ⟨allow.map String.ofList, deny.map String.ofList⟩

/-- Reads name and value of a path attribute. -/
def attributeAt (text : List Char) : StateM Cursor PathAttribute := do
  let name ← fieldAt delimiter text
  let value ← fieldAt delimiter text
  return ⟨String.ofList name, String.ofList value⟩

/-- Reads a version, group by group and field by field. The flag is looked at and not passed. -/
def decodeAt (text : List Char) : StateM Cursor Version := do
  let containerAccess ← groupAt text (accessAt text)
  let entryAccess ← groupAt text (accessAt text)
  let pathAttribute ← groupAt text (attributeAt text)
  let uri ← fieldAt delimiter text
  let modified ← fieldAt delimiter text
  let length ← fieldAt delimiter text
  let letter := charAt? text (← get).offset
  return {
    containerAccess := containerAccess
    entryAccess := entryAccess
    pathAttribute := pathAttribute
    uri := String.ofList uri
    modified := (Text.int64? modified).getD 0
    length := (Text.uint64? length).getD 0
    ambiguity := (letter.bind Ambiguity.ofLetter?).getD .forcedInclude }

theorem charAt?_of_dropBytes? {start : Nat} {rest : List Char}
    (h : dropBytes? text start = some rest) : charAt? text start = rest.head? := by
  rw [charAt?, h, Option.bind_some]

/-- A character of one byte is passed by going one byte further. -/
theorem dropBytes?_succ {start : Nat} {c : Char} {cs : List Char}
    (h : dropBytes? text start = some (c :: cs)) (hc : c.utf8Size = 1) :
    dropBytes? text (start + 1) = some cs := by
  obtain ⟨before, rfl, rfl⟩ := dropBytes?_eq_some_iff.mp h
  refine dropBytes?_eq_some_iff.mpr ⟨before ++ [c], by rw [List.append_assoc]; rfl, ?_⟩
  rw [byteLength_append, byteLength, byteLength, hc]

theorem takeMarkAt_follows (text : List Char) :
    Follows text (Cursor.step (takeMarkAt text)) takeMark := by
  refine Follows.step fun {start rest} h => ?_
  rw [takeMarkAt, charAt?_of_dropBytes? h]
  cases rest with
  | nil => exact ⟨rfl, h, Nat.le_refl start⟩
  | cons c cs =>
      rw [List.head?_cons, takeMark]
      dsimp only
      -- one byte is one character, as it is a mark that is passed
      by_cases hpresent : c = present
      · have hsize : c.utf8Size = 1 := by rw [hpresent]; decide
        rw [if_pos hpresent, if_pos hpresent]
        exact ⟨rfl, dropBytes?_succ h hsize, Nat.le_succ start⟩
      · by_cases habsent : c = absent
        · have hsize : c.utf8Size = 1 := by rw [habsent]; decide
          rw [if_neg hpresent, if_neg hpresent, if_pos habsent, if_pos habsent]
          exact ⟨rfl, dropBytes?_succ h hsize, Nat.le_succ start⟩
        · rw [if_neg hpresent, if_neg hpresent, if_neg habsent, if_neg habsent]
          exact ⟨rfl, h, Nat.le_refl start⟩

theorem groupAt_follows {α : Type} {body : StateM Cursor α} {read : List Char → α × List Char}
    (h : Follows text body read) : Follows text (groupAt text body) (decodeGroup read) := by
  have hbody : ∀ there : Bool,
      Follows text (if there then do let a ← body; return some a else return none)
        (fun rest => if there then (some (read rest).1, (read rest).2) else (none, rest)) := by
    intro there
    cases there with
    | true => exact h.bind fun a => Follows.pure (some a)
    | false => exact Follows.pure none
  exact (takeMarkAt_follows text).bind hbody

theorem accessAt_follows (text : List Char) : Follows text (accessAt text) decodeAccess := by
  have hlists := (listAt_follows delimiter text).bind fun allow =>
    (listAt_follows delimiter text).bind fun deny =>
      Follows.pure (AccessList.mk (allow.map String.ofList) (deny.map String.ofList))
  exact hlists

theorem attributeAt_follows (text : List Char) :
    Follows text (attributeAt text) decodeAttribute := by
  have hfields := (fieldAt_follows delimiter text).bind fun name =>
    (fieldAt_follows delimiter text).bind fun value =>
      Follows.pure (PathAttribute.mk (String.ofList name) (String.ofList value))
  exact hfields

/-- The reader of offsets follows the reader of rests through a whole version. -/
theorem decodeAt_follows (text : List Char) :
    ∃ after : List Char → List Char,
      Follows text (decodeAt text) (fun rest => (decode rest, after rest)) := by
  have haccess := groupAt_follows (accessAt_follows text)
  have hattribute := groupAt_follows (attributeAt_follows text)
  have hfield := fieldAt_follows delimiter text
  -- the letter is looked at where the last field has ended, and the cursor stays there
  have hletter :
      Follows text (return charAt? text (← get).offset) (fun rest => (rest.head?, rest)) :=
    Follows.get fun c rest hc => ⟨charAt?_of_dropBytes? hc.place, hc⟩
  have hversion := haccess.bind fun containerAccess => haccess.bind fun entryAccess =>
    hattribute.bind fun pathAttribute => hfield.bind fun uri => hfield.bind fun modified =>
      hfield.bind fun length => hletter.bind fun letter => Follows.pure (Version.mk
        containerAccess entryAccess pathAttribute (String.ofList uri)
        ((Text.int64? modified).getD 0) ((Text.uint64? length).getD 0)
        ((letter.bind Ambiguity.ofLetter?).getD .forcedInclude))
  exact ⟨_, hversion⟩

/-- **A cursor in a token stays where characters start, goes forward only and stops at the end**,
whatever the token is. A field moves it, unless it is at the end already; a list has no more values
than it announces, nor than there are bytes; off the characters nothing is read and the end is
answered. So it is all the way through a version. -/
theorem cursor_stays (token : String) :
    (∀ (d : Char) (start : Nat), Boundary token start →
      let next := (unpackAt d token.toList start).2
      Boundary token next ∧ start ≤ next ∧ next ≤ token.utf8ByteSize ∧
        (start ≠ token.utf8ByteSize → start < next)) ∧
    (∀ (d : Char) (start : Nat), Boundary token start →
      let list := unpackListAt d token.toList start
      Boundary token list.2 ∧ start ≤ list.2 ∧ list.2 ≤ token.utf8ByteSize ∧
        (listCount? (unpackAt d token.toList start).1 = none → list = ([], start)) ∧
        ∀ count, listCount? (unpackAt d token.toList start).1 = some count →
          list.1.length ≤ min count (token.utf8ByteSize - start)) ∧
    (∀ (d : Char) (start : Nat), ¬ Boundary token start →
      unpackAt d token.toList start = ([], token.utf8ByteSize)) ∧
    let read := (decodeAt token.toList).run Cursor.front
    read.1 = ofToken token ∧ read.2.trail.Pairwise (· ≥ ·) ∧
      ∀ p ∈ read.2.trail, Boundary token p ∧ p ≤ token.utf8ByteSize := by
  refine ⟨fun d start hstart => unpackAt_boundary hstart, fun d start hstart => ?_,
    fun d start hstart => unpackAt_off hstart, ?_⟩
  · obtain ⟨hnext, hforward, hinside⟩ := unpackListAt_boundary (d := d) hstart
    exact ⟨hnext, hforward, hinside, unpackListAt_uncounted hstart,
      fun count => unpackListAt_length hstart⟩
  · obtain ⟨after, hfollows⟩ := decodeAt_follows token.toList
    obtain ⟨hversion, hat⟩ := hfollows Cursor.front token.toList (Cursor.front_at token.toList)
    refine ⟨hversion, hat.forward, fun p hp => ?_⟩
    obtain ⟨rest, h⟩ := hat.mem_trail hp
    obtain ⟨hboundary, hsum⟩ := boundary_of_dropBytes? h
    exact ⟨hboundary, by omega⟩

/-- A token that announces as many values as a word can count, and breaks off behind an escape. -/
def brokenToken : String := "+18446744073709551615+ä\\"

theorem cursor_stays_broken :
    Boundary brokenToken 1 ∧ ¬ Boundary brokenToken 23 ∧
      (unpackAt delimiter brokenToken.toList 1).2 ≤ 25 ∧
      (unpackListAt delimiter brokenToken.toList 1).1.length ≤ 24 ∧
      unpackAt delimiter brokenToken.toList 23 = ([], 25) ∧
      Boundary brokenToken ((decodeAt brokenToken.toList).run Cursor.front).2.offset := by
  have hsize : brokenToken.utf8ByteSize = 25 := by decide +kernel
  have hcount : listCount? (unpackAt delimiter brokenToken.toList 1).1 =
      some 18446744073709551615 := by
    have hdigits : (unpackAt delimiter brokenToken.toList 1).1 =
        Text.decimal 18446744073709551615 := by decide +kernel
    rw [hdigits]
    exact Text.natural?_decimal (by decide +kernel)
  have hin : Boundary brokenToken 1 := by decide +kernel
  have hoff : ¬ Boundary brokenToken 23 := by decide +kernel
  obtain ⟨hfield, hlist, hnone, -, -, hdecode⟩ := cursor_stays brokenToken
  obtain ⟨-, -, -, -, hvalues⟩ := hlist delimiter 1 hin
  rw [hsize] at hfield hvalues hnone
  exact ⟨hin, hoff, (hfield delimiter 1 hin).2.2.1,
    Nat.le_trans (hvalues _ hcount) (Nat.min_le_right _ _), hnone delimiter 23 hoff,
    (hdecode _ List.mem_cons_self).1⟩

end Version

end Harvest
