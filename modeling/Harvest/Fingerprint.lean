import Harvest.Digest.Blake3
import Harvest.Text.Lossy
import Harvest.Text.Percent

/-!
# Fingerprints

What is found out about content by reading it: its digest, its length, and whether it is worth
indexing. The last is judged by the first bytes alone: a known document format, or text with few
enough characters that text does not have.
-/

namespace Harvest

/-- The findings about content. -/
structure Fingerprint where
  digest : String
  length : Nat
  indexable : Bool
deriving DecidableEq, Repr

namespace Fingerprint

/-- How many bytes are looked at. -/
def sniffLength : Nat := 8192

/-- How content of indexable document formats starts. -/
def documentStarts : List (List UInt8) :=
  [[0x25, 0x50, 0x44, 0x46],
    [0x7B, 0x5C, 0x72, 0x74, 0x66],
    [0x50, 0x4B, 0x03, 0x04],
    [0xD0, 0xCF, 0x11, 0xE0, 0xA1, 0xB1, 0x1A, 0xE1]]

/-- Whether a character has no place in text: a control character other than tab and line ends, or
one that stands for bytes that are no text. -/
def isForeign (c : Char) : Bool :=
  c == Text.replacement || (Text.isControl c && c != '\t' && c != '\n' && c != '\r')

/-- At most one in so many characters of a text may be foreign. -/
def foreignShare : Nat := 20

/-- Whether characters are mostly such as text has. -/
def isMostlyText (chars : List Char) : Bool :=
  foreignShare * chars.countP isForeign ≤ chars.length

/-- Whether content that starts with these bytes is worth indexing. Empty content is not. -/
def sniff (head : List UInt8) : Bool :=
  if head.isEmpty then false
  else documentStarts.any (·.isPrefixOf head) || isMostlyText (Text.decodeLossy head)

/-- The fingerprint of content. -/
def ofBytes (bytes : ByteArray) : Fingerprint where
  digest := Blake3.hexDigest bytes
  length := bytes.size
  indexable := sniff (bytes.extract 0 sniffLength).toList

/-- Content of which some pieces have been read. -/
structure Reading where
  /-- The first bytes, up to the number that is looked at. -/
  head : ByteArray
  /-- What has gone into the digest. -/
  digested : ByteArray
  length : Nat

namespace Reading

/-- Nothing read. -/
def start : Reading := ⟨.empty, .empty, 0⟩

/-- Reads one more piece. -/
def feed (r : Reading) (piece : ByteArray) : Reading where
  head := r.head ++ piece.extract 0 (sniffLength - r.head.size)
  digested := r.digested ++ piece
  length := r.length + piece.size

/-- The fingerprint of what has been read. -/
def finish (r : Reading) : Fingerprint :=
  ⟨Blake3.hexDigest r.digested, r.length, sniff r.head.toList⟩

end Reading

/-- The fingerprint of content that is read piece by piece. -/
def ofPieces (pieces : List ByteArray) : Fingerprint := (pieces.foldl Reading.feed .start).finish

end Fingerprint

end Harvest
