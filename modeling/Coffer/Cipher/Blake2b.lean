import Coffer.Bytes

/-!
The hash function BLAKE2b, unkeyed, with results of any length up to 64 bytes.
-/

namespace Coffer.Blake2b

structure Quad where
  a : UInt64
  b : UInt64
  c : UInt64
  d : UInt64
deriving Inhabited

/-- A word turned right by `n` bits, for `n` between 1 and 63. -/
@[inline]
def rotateRight (x n : UInt64) : UInt64 :=
  (x >>> n) ||| (x <<< (64 - n))

def initial : Array UInt64 := #[
  0x6a09e667f3bcc908, 0xbb67ae8584caa73b, 0x3c6ef372fe94f82b, 0xa54ff53a5f1d36f1,
  0x510e527fade682d1, 0x9b05688c2b3e6c1f, 0x1f83d9abfb41bd6b, 0x5be0cd19137e2179]

/-- The order in which the ten different rounds take the words of a block. -/
def orders : Array (Array Nat) := #[
  #[0, 1, 2, 3, 4, 5, 6, 7, 8, 9, 10, 11, 12, 13, 14, 15],
  #[14, 10, 4, 8, 9, 15, 13, 6, 1, 12, 0, 2, 11, 7, 5, 3],
  #[11, 8, 12, 0, 5, 2, 15, 13, 10, 14, 3, 6, 7, 1, 9, 4],
  #[7, 9, 3, 1, 13, 12, 11, 14, 2, 6, 5, 10, 4, 0, 15, 8],
  #[9, 0, 5, 7, 2, 4, 10, 15, 14, 1, 11, 12, 6, 8, 3, 13],
  #[2, 12, 6, 10, 0, 11, 8, 3, 4, 13, 7, 5, 15, 14, 1, 9],
  #[12, 5, 1, 15, 14, 13, 4, 10, 0, 7, 6, 3, 9, 2, 8, 11],
  #[13, 11, 7, 14, 12, 1, 3, 9, 5, 0, 15, 4, 8, 6, 2, 10],
  #[6, 15, 14, 9, 11, 3, 0, 8, 12, 2, 13, 7, 1, 4, 10, 5],
  #[10, 2, 8, 4, 7, 6, 1, 5, 15, 11, 9, 14, 3, 12, 13, 0]]

/-- Which words are mixed with one another, sixteen words standing in four rows: the columns, then
the diagonals. -/
def quads : List (Nat × Nat × Nat × Nat) :=
  [(0, 4, 8, 12), (1, 5, 9, 13), (2, 6, 10, 14), (3, 7, 11, 15),
    (0, 5, 10, 15), (1, 6, 11, 12), (2, 7, 8, 13), (3, 4, 9, 14)]

@[inline]
def mixAt (mix : Quad → Quad) (v : Array UInt64) (i j k l : Nat) : Array UInt64 :=
  let q := mix ⟨v.getD i 0, v.getD j 0, v.getD k 0, v.getD l 0⟩
  (((v.setIfInBounds i q.a).setIfInBounds j q.b).setIfInBounds k q.c).setIfInBounds l q.d

/-- Mixes four words with two words of the message. -/
@[inline]
def mix (x y : UInt64) (q : Quad) : Quad :=
  let a := q.a + q.b + x
  let d := rotateRight (q.d ^^^ a) 32
  let c := q.c + d
  let b := rotateRight (q.b ^^^ c) 24
  let a := a + b + y
  let d := rotateRight (d ^^^ a) 16
  let c := c + d
  ⟨a, rotateRight (b ^^^ c) 63, c, d⟩

/-- One round: every column and diagonal is mixed with two words of the block. -/
def round (block : Array UInt64) (v : Array UInt64) (n : Nat) : Array UInt64 :=
  let order := orders.getD (n % 10) #[]
  let wordAt (i : Nat) : UInt64 := block.getD (order.getD i 0) 0
  (quads.zipIdx).foldl (fun v ((i, j, k, l), m) =>
    mixAt (mix (wordAt (2 * m)) (wordAt (2 * m + 1))) v i j k l) v

/-- Works a block into the state. `count` is the number of message bytes up to its end. -/
def compress (state block : Array UInt64) (count : Nat) (last : Bool) : Array UInt64 :=
  let v := state ++ initial
  let v := v.modify 12 (· ^^^ UInt64.ofNat count)
  let v := v.modify 13 (· ^^^ UInt64.ofNat (count / 0x10000000000000000))
  let v := if last then v.modify 14 (~~~ ·) else v
  let v := (List.range 12).foldl (round block) v
  state.mapIdx fun i x => x ^^^ v.getD i 0 ^^^ v.getD (i + 8) 0

/-- The words of bytes, least significant byte first. -/
def words (bs : Bytes) : Array UInt64 :=
  ((Bytes.chunks 8 bs).map fun w => UInt64.ofNat (Bytes.ofLittleEndian w)).toArray

def bytes (ws : Array UInt64) : Bytes :=
  ws.toList.flatMap fun w => Bytes.littleEndian 8 w.toNat

/-- Works blocks of bytes into the state, the last one padded with zeros. -/
def absorb (state : Array UInt64) (count : Nat) : List Bytes → Array UInt64
  | [] => state
  | [block] => compress state (words (Bytes.padded 128 block)) (count + block.length) true
  | block :: rest => absorb (compress state (words block) (count + 128) false) (count + 128) rest

/-- The hash of a message in `size` bytes. An empty message is one empty block. -/
def hash (size : Nat) (message : Bytes) : Bytes :=
  let start := initial.modify 0 (· ^^^ UInt64.ofNat (0x01010000 + size))
  (bytes (absorb start 0 (if message.isEmpty then [[]] else Bytes.chunks 128 message))).take size

end Coffer.Blake2b
