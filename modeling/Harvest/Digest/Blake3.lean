import Harvest.Text.Numeral

/-!
# BLAKE3

The 256-bit digest of a text of bytes. The text is cut into chunks of 1024 bytes and each chunk into
blocks of 64; the blocks of a chunk are chained, the chunks are the leaves of a binary tree whose left
parts are complete and as large as possible, and the node at the top is compressed once more with a
mark of its own.
-/

namespace Harvest.Blake3

/-- Eight words that stand for everything compressed so far. -/
abbrev Chain := Vector UInt32 8

/-- The sixteen words of a block. -/
abbrev Block := Vector UInt32 16

/-- The chain before anything is compressed. -/
def start : Chain :=
  #v[0x6A09E667, 0xBB67AE85, 0x3C6EF372, 0xA54FF53A, 0x510E527F, 0x9B05688C, 0x1F83D9AB, 0x5BE0CD19]

/-- The order in which the words of a block enter the next round. -/
def wordOrder : Vector (Fin 16) 16 := #v[2, 6, 3, 10, 7, 0, 4, 13, 1, 11, 12, 5, 9, 14, 15, 8]

/-- Mark of the first block of a chunk. -/
def chunkStart : UInt32 := 1

/-- Mark of the last block of a chunk. -/
def chunkEnd : UInt32 := 2

/-- Mark of a node above the chunks. -/
def parent : UInt32 := 4

/-- Mark of the node at the top. -/
def root : UInt32 := 8

/-- Bytes of a block. -/
def blockLength : Nat := 64

/-- Bytes of a chunk. -/
def chunkLength : Nat := 1024

/-- Rotation to the right; `n` is between 1 and 31. -/
def rotate (w n : UInt32) : UInt32 := (w >>> n) ||| (w <<< (32 - n))

/-- Mixes two words of a block into four words of the state. -/
def mix (v : Block) (a b c d : Fin 16) (x y : UInt32) : Block :=
  let v := v.set a (v[a] + v[b] + x)
  let v := v.set d (rotate (v[d] ^^^ v[a]) 16)
  let v := v.set c (v[c] + v[d])
  let v := v.set b (rotate (v[b] ^^^ v[c]) 12)
  let v := v.set a (v[a] + v[b] + y)
  let v := v.set d (rotate (v[d] ^^^ v[a]) 8)
  let v := v.set c (v[c] + v[d])
  v.set b (rotate (v[b] ^^^ v[c]) 7)

/-- One round: the columns of the state, then its diagonals. -/
def round (v : Block) (w : Block) : Block :=
  let v := mix v 0 4 8 12 w[0] w[1]
  let v := mix v 1 5 9 13 w[2] w[3]
  let v := mix v 2 6 10 14 w[4] w[5]
  let v := mix v 3 7 11 15 w[6] w[7]
  let v := mix v 0 5 10 15 w[8] w[9]
  let v := mix v 1 6 11 12 w[10] w[11]
  let v := mix v 2 7 8 13 w[12] w[13]
  mix v 3 4 9 14 w[14] w[15]

/-- The words of a block in the order of the next round. -/
def reorder (w : Block) : Block := wordOrder.map (fun i => w[i])

/-- Further rounds, each on the words reordered once more. -/
def rounds : Nat → Block → Block → Block
  | 0, v, _ => v
  | n + 1, v, w => rounds n (round v w) (reorder w)

/-- What goes into one compression. -/
structure Node where
  chain : Chain
  block : Block
  /-- The number of the chunk; zero above the chunks. -/
  counter : UInt64
  /-- How many bytes of the block count. -/
  length : UInt32
  marks : UInt32

namespace Node

/-- The state before the first round. -/
def state (n : Node) : Block :=
  #v[n.chain[0], n.chain[1], n.chain[2], n.chain[3], n.chain[4], n.chain[5], n.chain[6], n.chain[7],
    start[0], start[1], start[2], start[3],
    n.counter.toUInt32, (n.counter >>> 32).toUInt32, n.length, n.marks]

/-- The chain after the compression: both halves of the final state, added without carry. -/
def compress (n : Node) : Chain :=
  let v := rounds 7 n.state n.block
  #v[v[0] ^^^ v[8], v[1] ^^^ v[9], v[2] ^^^ v[10], v[3] ^^^ v[11],
    v[4] ^^^ v[12], v[5] ^^^ v[13], v[6] ^^^ v[14], v[7] ^^^ v[15]]

/-- The node above two nodes. -/
def above (left right : Node) : Node :=
  { chain := start, block := left.compress ++ right.compress, counter := 0, length := 64,
    marks := parent }

end Node

/-- A byte as a word; zero past the end. -/
def byteAt (bytes : ByteArray) (i : Nat) : UInt32 :=
  if h : i < bytes.size then bytes[i].toUInt32 else 0

/-- Four bytes as a word, the lowest first. -/
def wordAt (bytes : ByteArray) (i : Nat) : UInt32 :=
  byteAt bytes i ||| (byteAt bytes (i + 1) <<< 8) ||| (byteAt bytes (i + 2) <<< 16) |||
    (byteAt bytes (i + 3) <<< 24)

/-- The block at an offset, filled up with zeros. -/
def blockAt (bytes : ByteArray) (offset : Nat) : Block :=
  Vector.ofFn (fun i => wordAt bytes (offset + 4 * i.val))

/-- Chains the blocks of a chunk from `offset` on up to the last, which is left to be compressed with
what the place of the chunk in the tree asks for. -/
def chunkFrom (chunk : ByteArray) (counter : UInt64) : Nat → Nat → Chain → UInt32 → Node
  | 0, offset, chain, marks =>
    { chain := chain, block := blockAt chunk offset, counter := counter,
      length := UInt32.ofNat (chunk.size - offset), marks := marks ||| chunkEnd }
  | blocks + 1, offset, chain, marks =>
    let node : Node :=
      { chain := chain, block := blockAt chunk offset, counter := counter, length := 64,
        marks := marks }
    chunkFrom chunk counter blocks (offset + blockLength) node.compress 0

/-- The chunk of a number. -/
def chunkNode (bytes : ByteArray) (number : Nat) : Node :=
  let chunk := bytes.extract (number * chunkLength) ((number + 1) * chunkLength)
  chunkFrom chunk (UInt64.ofNat number) ((chunk.size - 1) / blockLength) 0 start chunkStart

/-- How many of `count` chunks go to the left: the largest power of two that leaves some over. -/
def leftCount (count : Nat) : Nat := 1 <<< (count - 1).log2

theorem leftCount_pos (count : Nat) : 0 < leftCount count := by
  rw [leftCount, Nat.one_shiftLeft]
  exact Nat.two_pow_pos _

theorem leftCount_lt {count : Nat} (h : 1 < count) : leftCount count < count := by
  have : leftCount count ≤ count - 1 := by
    rw [leftCount, Nat.one_shiftLeft]
    exact Nat.log2_self_le (by omega)
  omega

/-- The tree over `count` chunks from the chunk `first` on. -/
def tree (bytes : ByteArray) (first count : Nat) : Node :=
  if 1 < count then
    .above (tree bytes first (leftCount count))
      (tree bytes (first + leftCount count) (count - leftCount count))
  else chunkNode bytes first
termination_by count
decreasing_by
  · exact leftCount_lt (by assumption)
  · have := leftCount_pos count
    omega

/-- How many chunks a text has; an empty text has one. -/
def chunkCount (bytes : ByteArray) : Nat := (bytes.size - 1) / chunkLength + 1

/-- The digest as eight words. -/
def digest (bytes : ByteArray) : Chain :=
  let top := tree bytes 0 (chunkCount bytes)
  { top with marks := top.marks ||| root : Node }.compress

/-- A word in hexadecimal digits, the lowest byte first. -/
def wordText (w : UInt32) : List Char :=
  ([0, 8, 16, 24] : List UInt32).flatMap (fun shift => Text.padded 16 2 ((w >>> shift) &&& 0xFF).toNat)

/-- The digest in hexadecimal digits. -/
def hexDigest (bytes : ByteArray) : String := String.ofList ((digest bytes).toList.flatMap wordText)

end Harvest.Blake3
