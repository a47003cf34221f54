/-!
# Digests

The digest of a text identifies it: the BLAKE3 hash of its UTF-8 bytes, in hexadecimal digits. The
bytes are cut into chunks, the chunks into blocks. The blocks of a chunk are compressed one after
the other, each from the chaining value of the one before; the chunks are then joined by twos, level
by level, until one node is left, which is the root.
-/

namespace GatewayPolicy

namespace Digest

/-- A chaining value. -/
abbrev Chain := Vector UInt32 8

/-- The words of a block, and the state of the compression. -/
abbrev Words := Vector UInt32 16

/-- The chaining value to start from. -/
def initialChain : Chain :=
  #v[0x6a09e667, 0xbb67ae85, 0x3c6ef372, 0xa54ff53a, 0x510e527f, 0x9b05688c, 0x1f83d9ab, 0x5be0cd19]

/-- The bytes of a block. -/
def blockSize : Nat := 64

/-- The bytes of a chunk. -/
def chunkSize : Nat := 1024

/-! ## Compression -/

/-- Rotates a word to the right. -/
def rotateRight (w n : UInt32) : UInt32 := (w >>> n) ||| (w <<< (32 - n))

/-- Mixes two words of the block into four words of the state. -/
def mix (s : Words) (a b c d : Fin 16) (x y : UInt32) : Words :=
  let s := s.set a (s[a] + s[b] + x)
  let s := s.set d (rotateRight (s[d] ^^^ s[a]) 16)
  let s := s.set c (s[c] + s[d])
  let s := s.set b (rotateRight (s[b] ^^^ s[c]) 12)
  let s := s.set a (s[a] + s[b] + y)
  let s := s.set d (rotateRight (s[d] ^^^ s[a]) 8)
  let s := s.set c (s[c] + s[d])
  s.set b (rotateRight (s[b] ^^^ s[c]) 7)

/-- Mixes a block into the state: into its columns, then into its diagonals. -/
def round (s m : Words) : Words :=
  let s := mix s 0 4 8 12 m[0] m[1]
  let s := mix s 1 5 9 13 m[2] m[3]
  let s := mix s 2 6 10 14 m[4] m[5]
  let s := mix s 3 7 11 15 m[6] m[7]
  let s := mix s 0 5 10 15 m[8] m[9]
  let s := mix s 1 6 11 12 m[10] m[11]
  let s := mix s 2 7 8 13 m[12] m[13]
  mix s 3 4 9 14 m[14] m[15]

/-- Where each word of a block comes from in the next round. -/
def permutation : Vector (Fin 16) 16 := #v[2, 6, 3, 10, 7, 0, 4, 13, 1, 11, 12, 5, 9, 14, 15, 8]

/-- The state after the rounds, each with the words of the block in another order. -/
def rounds : Nat → Words → Words → Words
  | 0, s, _ => s
  | n + 1, s, m => rounds n (round s m) (permutation.map fun i => m[i])

/-- The rounds of a compression. -/
def roundCount : Nat := 7

/-! ## Nodes -/

/-- The marks of what is compressed. -/
structure Marks where
  /-- The first block of a chunk. -/
  chunkStart : Bool := false
  /-- The last block of a chunk. -/
  chunkEnd : Bool := false
  /-- Two nodes that are joined. -/
  isParent : Bool := false
  /-- The node that is left at the end. -/
  isRoot : Bool := false

/-- The marks as the bits of a word. -/
def Marks.word (m : Marks) : UInt32 :=
  (if m.chunkStart then 1 else 0) ||| (if m.chunkEnd then 2 else 0) |||
    (if m.isParent then 4 else 0) ||| (if m.isRoot then 8 else 0)

/-- A block that waits for its compression. -/
structure Node where
  /-- The chaining value to go on from. -/
  chain : Chain
  /-- The words of the block. -/
  words : Words
  /-- The number of the chunk. -/
  index : Nat := 0
  /-- The bytes of the block. -/
  size : Nat := blockSize
  /-- What the block is. -/
  marks : Marks

namespace Node

/-- The chaining value after the compression. -/
def compress (n : Node) : Chain :=
  let start : Words := n.chain ++
    #v[initialChain[0], initialChain[1], initialChain[2], initialChain[3],
      UInt32.ofNat n.index, UInt32.ofNat (n.index >>> 32), UInt32.ofNat n.size, n.marks.word]
  let s := rounds roundCount start n.words
  Vector.ofFn fun i => s[i.val] ^^^ s[i.val + 8]

/-- Joins two nodes. -/
def join (left right : Node) : Node :=
  ⟨initialChain, left.compress ++ right.compress, 0, blockSize, { isParent := true }⟩

/-- The chaining value of a node that is the root. -/
def compressRoot (n : Node) : Chain := { n with marks := { n.marks with isRoot := true } }.compress

end Node

/-! ## Chunks -/

/-- Cuts a list into pieces of the size; the last one may be shorter. -/
def pieces {α : Type} (size : Nat) (h : 0 < size) (xs : List α) : List (List α) :=
  match xs with
  | [] => []
  | x :: rest => (x :: rest).take size :: pieces size h ((x :: rest).drop size)
termination_by xs.length
decreasing_by simp only [List.length_drop, List.length_cons]; omega

/-- The word that four bytes hold, the lowest first. -/
def littleEndian (bytes : List UInt8) : UInt32 :=
  bytes.foldr (fun b acc => (acc <<< 8) ||| b.toUInt32) 0

/-- The words of a block; missing bytes are zero. -/
def blockWords (bytes : List UInt8) : Words :=
  Vector.ofFn fun i => littleEndian ((bytes.drop (4 * i.val)).take 4)

/-- The last block of a chunk, after the compression of those before it. -/
def chunkNode (index : Nat) (chain : Chain) (isFirst : Bool) : List (List UInt8) → Node
  | [] => ⟨chain, blockWords [], index, 0, { chunkStart := isFirst, chunkEnd := true }⟩
  | [b] => ⟨chain, blockWords b, index, b.length, { chunkStart := isFirst, chunkEnd := true }⟩
  | b :: rest =>
    chunkNode index
      (Node.compress ⟨chain, blockWords b, index, b.length, { chunkStart := isFirst }⟩) false rest

/-- The node of a chunk. -/
def nodeOfChunk (index : Nat) (bytes : List UInt8) : Node :=
  chunkNode index initialChain true (pieces blockSize (by decide) bytes)

/-- Joins nodes by twos; one that is left over stays as it is. -/
def joinPairs : List Node → List Node
  | left :: right :: rest => left.join right :: joinPairs rest
  | nodes => nodes

theorem length_joinPairs_le : ∀ nodes : List Node, (joinPairs nodes).length ≤ nodes.length
  | [] => Nat.le_refl _
  | [_] => Nat.le_refl _
  | _ :: _ :: rest => by
    simp only [joinPairs, List.length_cons]
    exact Nat.succ_le_succ (Nat.le_succ_of_le (length_joinPairs_le rest))

/-- Joins nodes level by level until one is left. -/
def joinAll (first : Node) (rest : List Node) : Node :=
  match rest with
  | [] => first
  | second :: rest => joinAll (first.join second) (joinPairs rest)
termination_by rest.length
decreasing_by exact Nat.lt_succ_of_le (length_joinPairs_le rest)

/-- The root of a list of bytes; no bytes are one empty chunk. -/
def rootNode (bytes : List UInt8) : Node :=
  match (pieces chunkSize (by decide) bytes).mapIdx nodeOfChunk with
  | [] => nodeOfChunk 0 []
  | first :: rest => joinAll first rest

/-! ## Text -/

/-- The bytes of a word, the lowest first. -/
def wordBytes (w : UInt32) : List UInt8 :=
  [w.toUInt8, (w >>> 8).toUInt8, (w >>> 16).toUInt8, (w >>> 24).toUInt8]

/-- The two hexadecimal digits of a byte. -/
def hexByte (b : UInt8) : List Char := [Nat.digitChar (b.toNat / 16), Nat.digitChar (b.toNat % 16)]

/-- The hash of a list of bytes. -/
def hash (bytes : List UInt8) : List UInt8 := (rootNode bytes).compressRoot.toList.flatMap wordBytes

end Digest

/-- The digest of a document, in hexadecimal digits. -/
def fingerprint (document : String) : String :=
  String.ofList ((Digest.hash document.toUTF8.data.toList).flatMap Digest.hexByte)

/-- A document of one block. -/
example : fingerprint "abc" =
    "6437b3ac38465133ffb63b75273a8db548c558465d79db03fd359c6cd5bd9d85" := by
  decide +kernel

end GatewayPolicy
