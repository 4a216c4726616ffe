import Harvest.Crawl.Sink

/-!
# Content read in pieces

A scratch copy is fingerprinted as it is read, and where the reads end is not up to anybody: they may
be cut anywhere, and the first bytes, by which content is judged, may be spread over any number of
them. `fingerprinter_pieces` says that none of this is seen in the fingerprint. What carries it is one
invariant of reading, `Reading.Holds`: the head, what was digested and the length all belong to the
same bytes, those of the pieces so far.
-/

namespace Harvest

namespace Fingerprint

/-! ## One more piece -/

/-- What is known of content of which these bytes have been read. -/
structure Reading.Holds (r : Reading) (bytes : ByteArray) : Prop where
  /-- The head ends where enough has been seen, or where the bytes end. -/
  head : r.head = bytes.extract 0 sniffLength
  digested : r.digested = bytes
  length : r.length = bytes.size

namespace Reading

theorem holds_start : start.Holds .empty := ⟨rfl, rfl, rfl⟩

/-- The first bytes of two texts in a row: the second is only asked for what the first leaves. -/
theorem extract_append_of_head (bytes piece : ByteArray) (n : Nat) :
    (bytes ++ piece).extract 0 n =
      bytes.extract 0 n ++ piece.extract 0 (n - (bytes.extract 0 n).size) := by
  rw [ByteArray.extract_append, ByteArray.size_extract, Nat.zero_sub, Nat.sub_zero]
  by_cases hn : n ≤ bytes.size
  · rw [Nat.min_eq_left hn, Nat.sub_self, Nat.sub_eq_zero_of_le hn]
  · rw [Nat.min_eq_right (Nat.le_of_not_le hn)]

theorem Holds.feed {r : Reading} {bytes : ByteArray} (h : r.Holds bytes) (piece : ByteArray) :
    (r.feed piece).Holds (bytes ++ piece) where
  head := by
    show r.head ++ piece.extract 0 (sniffLength - r.head.size) = _
    rw [h.head, extract_append_of_head]
  digested := by
    show r.digested ++ piece = _
    rw [h.digested]
  length := by
    show r.length + piece.size = _
    rw [h.length, ByteArray.size_append]

/-- Reading on from some bytes, through any number of pieces. -/
theorem Holds.feedAll : ∀ (pieces : List ByteArray) {r : Reading} {bytes : ByteArray},
    r.Holds bytes → (pieces.foldl Reading.feed r).Holds (pieces.foldl (· ++ ·) bytes)
  | [], _, _, h => h
  | piece :: pieces, _, _, h => feedAll pieces (h.feed piece)

theorem Holds.finish {r : Reading} {bytes : ByteArray} (h : r.Holds bytes) :
    r.finish = ofBytes bytes := by
  rw [Reading.finish, h.head, h.digested, h.length, ofBytes]

end Reading

/-! ## All pieces -/

/-- Pieces have the fingerprint of the bytes they make up. -/
theorem ofPieces_eq (pieces : List ByteArray) :
    ofPieces pieces = ofBytes (pieces.foldl (· ++ ·) .empty) :=
  (Reading.Holds.feedAll pieces Reading.holds_start).finish

/-- No more bytes are looked at than there are. -/
theorem ofBytes_eq (bytes : ByteArray) :
    ofBytes bytes =
      { digest := Blake3.hexDigest bytes
        length := bytes.size
        indexable := sniff (bytes.extract 0 (min sniffLength bytes.size)).toList } := by
  have hhead : bytes.extract 0 (min sniffLength bytes.size) = bytes.extract 0 sniffLength := by
    refine ByteArray.ext_getElem ?_ ?_
    · simp only [ByteArray.size_extract]
      omega
    · intro i _ _
      simp only [ByteArray.getElem_extract]
  rw [hhead]
  rfl

end Fingerprint

/-! ## Scratch copies -/

/-- **The fingerprint of a copy is that of its bytes**, in whatever pieces they are read. Its digest
is taken over all of them, its length counts them, and it is judged by the first of them, as many as
are looked at or as there are. -/
theorem fingerprinter_pieces {σ : Type} (place : Scratch (StateM σ)) (path : String) (s s' : σ)
    (pieces : List ByteArray) (bytes : ByteArray) (hjoin : pieces.foldl (· ++ ·) .empty = bytes)
    (hread : (place.read path).run.run s = (.ok ⟨pieces, none⟩, s')) :
    (place.fingerprinter path).run.run s =
      (.ok
        { digest := Blake3.hexDigest bytes
          length := bytes.size
          indexable :=
            Fingerprint.sniff (bytes.extract 0 (min Fingerprint.sniffLength bytes.size)).toList },
        s') := by
  rw [← Fingerprint.ofBytes_eq, ← hjoin, ← Fingerprint.ofPieces_eq, Scratch.fingerprinter,
    ExceptT.run_bind, StateT.run_bind, hread]
  rfl

/-- A place with one copy, which is read a piece at a time. -/
def copyInPieces (pieces : List ByteArray) : Scratch (StateM Unit) where
  location := "/tmp"
  create := pure "copy"
  clear := fun _ => pure ()
  append := fun _ _ => pure ()
  read := fun _ => pure ⟨pieces, none⟩
  discard := fun _ => pure ()

/-- A piece that is shorter than the head of its content, though two of them are longer. -/
def half (byte : UInt8) : ByteArray := ⟨.replicate 5000 byte⟩

theorem size_half (byte : UInt8) : (half byte).size = 5000 := Array.size_replicate

/-- The head of this copy ends within its second piece. -/
theorem fingerprinter_pieces_straddling :
    (half 0x61).size < Fingerprint.sniffLength ∧
    Fingerprint.sniffLength < (half 0x61 ++ half 0x62).size ∧
    ((copyInPieces [half 0x61, half 0x62]).fingerprinter "copy").run.run () =
      (.ok
        { digest := Blake3.hexDigest (half 0x61 ++ half 0x62)
          length := (half 0x61 ++ half 0x62).size
          indexable := Fingerprint.sniff ((half 0x61 ++ half 0x62).extract 0
            (min Fingerprint.sniffLength (half 0x61 ++ half 0x62).size)).toList },
        ()) := by
  refine ⟨?_, ?_, fingerprinter_pieces (copyInPieces [half 0x61, half 0x62]) "copy" () ()
    [half 0x61, half 0x62] (half 0x61 ++ half 0x62) ?_ rfl⟩
  · rw [size_half]
    decide
  · rw [ByteArray.size_append, size_half, size_half]
    decide
  · exact congrArg (· ++ half 0x62) ByteArray.empty_append

end Harvest
