import TitleBar.Text.Utf8

/-! # Content digests

The digest of a text is the first half of the BLAKE3 hash of its UTF-8 bytes, in hexadecimal. The
bytes are cut into chunks of 1024, each of which is compressed block by block; the chunks are the
leaves of a tree whose left subtrees hold a power of two of chunks, as many as possible while
something is left for the right one. The compression at the root is marked as such.
-/

namespace TitleBar.Digest

abbrev Chain := Vector UInt32 8

/-- The words of a block, and the state of a compression. -/
abbrev Block := Vector UInt32 16

theorem block_size_ne_zero : @NeZero Nat Zero.ofOfNat0 16 := Nat.instNeZeroSucc

-- The words of a block are numbered from zero.
attribute [local instance] block_size_ne_zero

def initial : Chain :=
  #v[0x6a09e667, 0xbb67ae85, 0x3c6ef372, 0xa54ff53a, 0x510e527f, 0x9b05688c, 0x1f83d9ab, 0x5be0cd19]

/-- Marks the first block of a chunk. -/
def chunkStart : UInt32 := 1

def chunkEnd : UInt32 := 2

def parentMark : UInt32 := 4

def rootMark : UInt32 := 8

/-- The word rotated to the right by `n` bits, `0 < n < 32`. -/
def rotate (word n : UInt32) : UInt32 := (word >>> n) ||| (word <<< (32 - n))

/-- Mixes two message words into a column or a diagonal of the state. -/
def mix (state : Block) (a b c d : Fin 16) (x y : UInt32) : Block :=
  let wa := state[a] + state[b] + x
  let wd := rotate (state[d] ^^^ wa) 16
  let wc := state[c] + wd
  let wb := rotate (state[b] ^^^ wc) 12
  let wa := wa + wb + y
  let wd := rotate (wd ^^^ wa) 8
  let wc := wc + wd
  let wb := rotate (wb ^^^ wc) 7
  (((state.set a wa).set b wb).set c wc).set d wd

/-- Mixes the columns and then the diagonals. -/
def round (state message : Block) : Block :=
  let state := mix state 0 4 8 12 (message.get 0) (message.get 1)
  let state := mix state 1 5 9 13 (message.get 2) (message.get 3)
  let state := mix state 2 6 10 14 (message.get 4) (message.get 5)
  let state := mix state 3 7 11 15 (message.get 6) (message.get 7)
  let state := mix state 0 5 10 15 (message.get 8) (message.get 9)
  let state := mix state 1 6 11 12 (message.get 10) (message.get 11)
  let state := mix state 2 7 8 13 (message.get 12) (message.get 13)
  mix state 3 4 9 14 (message.get 14) (message.get 15)

/-- Reorders the message words between two rounds. -/
def permute (m : Block) : Block :=
  #v[m.get 2, m.get 6, m.get 3, m.get 10, m.get 7, m.get 0, m.get 4, m.get 13, m.get 1, m.get 11,
    m.get 12, m.get 5, m.get 9, m.get 14, m.get 15, m.get 8]

def rounds : Nat → Block → Block → Block
  | 0, state, _ => state
  | n + 1, state, message => rounds n (round state message) (permute message)

/-- Compresses a block into a chaining value. `counter` is the number of the chunk and `length` the
number of bytes of the block. -/
def compress (chain : Chain) (block : Block) (counter : UInt64) (length marks : UInt32) : Chain :=
  let start : Block :=
    chain ++ #v[initial.get 0, initial.get 1, initial.get 2, initial.get 3, counter.toUInt32,
      (counter >>> 32).toUInt32, length, marks]
  let mixed := rounds 7 start block
  Vector.ofFn fun i : Fin 8 => mixed.get (i.castAdd 8) ^^^ mixed.get (i.natAdd 8)

/-- The word whose bytes, the lowest first, a list starts with; missing bytes are zero. -/
def word (bytes : List UInt8) : UInt32 :=
  let byte := fun i => ((bytes[i]?).getD 0).toUInt32
  byte 0 ||| (byte 1 <<< 8) ||| (byte 2 <<< 16) ||| (byte 3 <<< 24)

/-- The block of up to 64 bytes. -/
def blockOf (bytes : List UInt8) : Block := Vector.ofFn fun i => word (bytes.drop (4 * i))

def parentBlock (left right : Chain) : Block := left ++ right

/-- The last compression of a chunk or of a subtree, not yet done: whether it is the last of all is
known only to the caller. -/
structure Pending where
  chain : Chain
  block : Block
  counter : UInt64
  length : UInt32
  marks : UInt32

/-- The outcome of the last compression of a part. -/
def Pending.chainingValue (pending : Pending) : Chain :=
  compress pending.chain pending.block pending.counter pending.length pending.marks

/-- The outcome of the last compression of all. -/
def Pending.root (pending : Pending) : Chain :=
  compress pending.chain pending.block 0 pending.length (pending.marks ||| rootMark)

/-- Compresses a chunk up to its last block. -/
def chunk (counter : UInt64) (chain : Chain) (marks : UInt32) (bytes : List UInt8) : Pending :=
  if bytes.length ≤ 64 then
    ⟨chain, blockOf bytes, counter, bytes.length.toUInt32, marks ||| chunkEnd⟩
  else
    chunk counter (compress chain (blockOf (bytes.take 64)) counter 64 marks) 0 (bytes.drop 64)
termination_by bytes.length
decreasing_by
  simp only [List.length_drop]
  omega

/-- The number of chunks of the left subtree, of more than one chunk. -/
def leftChunks (chunks : Nat) : Nat := 1 <<< (chunks - 1).log2

/-- The number of chunks of a text; an empty one has one chunk. -/
def chunkCount (size : Nat) : Nat := max 1 ((size + 1023) / 1024)

theorem leftChunks_pos (chunks : Nat) : 0 < leftChunks chunks := by
  rw [leftChunks, Nat.one_shiftLeft]
  exact Nat.two_pow_pos _

theorem leftChunks_lt {chunks : Nat} (several : 1 < chunks) : leftChunks chunks < chunks := by
  have := Nat.log2_self_le (n := chunks - 1) (by omega)
  rw [leftChunks, Nat.one_shiftLeft]
  omega

/-- Compresses the tree over some bytes up to its root. `counter` is the number of the first
chunk. -/
def tree (counter : UInt64) (bytes : List UInt8) : Pending :=
  if h : bytes.length ≤ 1024 then chunk counter initial chunkStart bytes
  else
    let left := leftChunks (chunkCount bytes.length)
    let leftValue := (tree counter (bytes.take (1024 * left))).chainingValue
    let rightValue := (tree (counter + left.toUInt64) (bytes.drop (1024 * left))).chainingValue
    ⟨initial, parentBlock leftValue rightValue, 0, 64, parentMark⟩
termination_by bytes.length
decreasing_by
  · have fewer : left < chunkCount bytes.length := leftChunks_lt (by unfold chunkCount; omega)
    unfold chunkCount at fewer
    simp only [List.length_take]
    omega
  · have present : 0 < left := leftChunks_pos _
    simp only [List.length_drop]
    omega

/-- The bytes of a word, the lowest first. -/
def wordBytes (word : UInt32) : List UInt8 :=
  [word.toUInt8, (word >>> 8).toUInt8, (word >>> 16).toUInt8, (word >>> 24).toUInt8]

def byteDigits (byte : UInt8) : List Char :=
  let digit := fun n => if n < 10 then Char.ofNat (48 + n) else Char.ofNat (87 + n)
  [digit (byte.toNat / 16), digit (byte.toNat % 16)]

def ofBytes (bytes : List UInt8) : String :=
  let root := (tree 0 bytes).root
  String.ofList (([root[0], root[1], root[2], root[3]].flatMap wordBytes).flatMap byteDigits)

def ofString (text : String) : String := ofBytes (Text.encode text.toList)

end TitleBar.Digest
