import ContractScan.Text.Numeral

/-!
# BLAKE3

The hash function BLAKE3 without a key, over lists of bytes. The input is cut into chunks of 1024
bytes, each chunk into blocks of 64; the chunks are the leaves of a binary tree whose left parts
are as large as a power of two allows, and the compression of its root gives the digest.
-/

namespace ContractScan.Blake3

/-- The initial chaining value. -/
def iv : Vector UInt32 8 :=
  #v[0x6a09e667, 0xbb67ae85, 0x3c6ef372, 0xa54ff53a, 0x510e527f, 0x9b05688c, 0x1f83d9ab, 0x5be0cd19]

/-- How the words of a block are rearranged between rounds. -/
def permutation : Vector (Fin 16) 16 := #v[2, 6, 3, 10, 7, 0, 4, 13, 1, 11, 12, 5, 9, 14, 15, 8]

/-- The flag of the first block of a chunk. -/
def chunkStart : UInt32 := 1

/-- The flag of the last block of a chunk. -/
def chunkEnd : UInt32 := 2

/-- The flag of a node above two subtrees. -/
def parentNode : UInt32 := 4

/-- The flag of the node on top. -/
def rootNode : UInt32 := 8

/-- The word turned to the right. -/
def rotate (x n : UInt32) : UInt32 := (x >>> n) ||| (x <<< (32 - n))

/-- Mixes two message words into four words of the state. -/
def mix (v : Vector UInt32 16) (a b c d : Fin 16) (x y : UInt32) : Vector UInt32 16 :=
  let p := v[a] + v[b] + x
  let s := rotate (v[d] ^^^ p) 16
  let r := v[c] + s
  let q := rotate (v[b] ^^^ r) 12
  let p := p + q + y
  let s := rotate (s ^^^ p) 8
  let r := r + s
  let q := rotate (q ^^^ r) 7
  (((v.set a p).set b q).set c r).set d s

/-- One round: the columns of the state and then its diagonals. -/
def round (v m : Vector UInt32 16) : Vector UInt32 16 :=
  let v := mix v 0 4 8 12 m[0] m[1]
  let v := mix v 1 5 9 13 m[2] m[3]
  let v := mix v 2 6 10 14 m[4] m[5]
  let v := mix v 3 7 11 15 m[6] m[7]
  let v := mix v 0 5 10 15 m[8] m[9]
  let v := mix v 1 6 11 12 m[10] m[11]
  let v := mix v 2 7 8 13 m[12] m[13]
  mix v 3 4 9 14 m[14] m[15]

/-- The given number of rounds, with the message rearranged after each. -/
def rounds : Nat → Vector UInt32 16 → Vector UInt32 16 → Vector UInt32 16
  | 0, v, _ => v
  | n + 1, v, m => rounds n (round v m) (Vector.ofFn fun i ↦ m[permutation[i]])

/-- What is compressed: a chaining value and a block, with the number of the chunk, the length of
the block in bytes and flags. -/
structure Node where
  chain : Vector UInt32 8
  block : Vector UInt32 16
  counter : Nat
  length : Nat
  flags : UInt32

/-- The first eight words of the compression. -/
def Node.compress (n : Node) : Vector UInt32 8 :=
  let v : Vector UInt32 16 := n.chain ++
    #v[iv[0], iv[1], iv[2], iv[3], n.counter.toUInt32, (n.counter >>> 32).toUInt32,
      n.length.toUInt32, n.flags]
  let v := rounds 7 v n.block
  Vector.ofFn fun i : Fin 8 ↦ v[i] ^^^ v[i.val + 8]

/-- The list cut into pieces of the given size, the last one smaller; an empty list is one piece. -/
def pieces (size : Nat) (s : List UInt8) : List (List UInt8) :=
  if _h : size = 0 ∨ s.drop size = [] then [s] else s.take size :: pieces size (s.drop size)
termination_by s.length
decreasing_by
  have : ¬ s.length ≤ size := fun le ↦ _h (.inr (List.drop_eq_nil_of_le le))
  simp only [List.length_drop]
  omega

/-- The sixteen words of a block of bytes, the lowest byte first, filled up with zeros. -/
def words (block : List UInt8) : Vector UInt32 16 :=
  let bytes := block.toArray
  Vector.ofFn fun i : Fin 16 ↦
    let byte := fun k ↦ (bytes.getD (4 * i.val + k) 0).toUInt32
    byte 0 ||| (byte 1 <<< 8) ||| (byte 2 <<< 16) ||| (byte 3 <<< 24)

/-- The last node of a chunk, after the compression of the blocks before. -/
def chunkFrom (counter : Nat) (chain : Vector UInt32 8) (start : UInt32) :
    List (List UInt8) → Node
  | [] => ⟨chain, words [], counter, 0, start ||| chunkEnd⟩
  | [b] => ⟨chain, words b, counter, b.length, start ||| chunkEnd⟩
  | b :: bs => chunkFrom counter (Node.compress ⟨chain, words b, counter, b.length, start⟩) 0 bs

/-- The node of a chunk. -/
def chunk (counter : Nat) (bytes : List UInt8) : Node :=
  chunkFrom counter iv chunkStart (pieces 64 bytes)

/-- The node above two subtrees. -/
def parent (left right : Vector UInt32 8) : Node := ⟨iv, left ++ right, 0, 64, parentNode⟩

/-- How many of at least two chunks belong to the left subtree. -/
def leftSize (n : Nat) : Nat := 1 <<< (n - 1).log2

/-- The node on top of the chunks, of which the first has the given number. -/
def tree (counter : Nat) (chunks : List (List UInt8)) : Node :=
  if _h : chunks.length ≤ 1 then chunk counter (chunks.headD [])
  else
    let k := leftSize chunks.length
    parent (tree counter (chunks.take k)).compress (tree (counter + k) (chunks.drop k)).compress
termination_by chunks.length
decreasing_by
  · have := Nat.log2_self_le (show chunks.length - 1 ≠ 0 by omega)
    simp only [leftSize, Nat.one_shiftLeft, List.length_take]
    omega
  · have := Nat.two_pow_pos (chunks.length - 1).log2
    simp only [leftSize, Nat.one_shiftLeft, List.length_drop]
    omega

/-- The first words of the digest. -/
def digest (bytes : List UInt8) : Vector UInt32 8 :=
  let top := tree 0 (pieces 1024 bytes)
  { top with flags := top.flags ||| rootNode }.compress

/-- A word in hexadecimal, the lowest byte first. -/
def hexWord (w : UInt32) : List Char :=
  ([0, 8, 16, 24] : List UInt32).flatMap fun k ↦ Text.hexByte ((w >>> k) &&& 0xff).toNat

/-- The digest in hexadecimal. -/
def hexDigest (bytes : List UInt8) : List Char := (digest bytes).toList.flatMap hexWord

end ContractScan.Blake3
