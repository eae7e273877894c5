import Coffer.Cipher.Blake2b

/-!
The password hash Argon2id, version 1.3. A memory of 1 KiB blocks, in lanes of equal length, is
filled block by block; every new block depends on the one before it and on another one. In the first
half of the first pass that other block is chosen without regard to the data, later by the data.
-/

namespace Coffer.Argon2id

open Blake2b (Quad rotateRight)

abbrev Block := Array UInt64

def zeroBlock : Block :=
  Array.replicate 128 0

def xorBlock (x y : Block) : Block :=
  Array.zipWith (· ^^^ ·) x y

/-- The sum of two words and twice the product of their lower halves. -/
@[inline]
def blend (x y : UInt64) : UInt64 :=
  x + y + 2 * (x &&& 0xffffffff) * (y &&& 0xffffffff)

@[inline]
def mix (q : Quad) : Quad :=
  let a := blend q.a q.b
  let d := rotateRight (q.d ^^^ a) 32
  let c := blend q.c d
  let b := rotateRight (q.b ^^^ c) 24
  let a := blend a b
  let d := rotateRight (d ^^^ a) 16
  let c := blend c d
  ⟨a, rotateRight (b ^^^ c) 63, c, d⟩

/-- Mixes sixteen words of a block, given the place of each. -/
@[inline]
def permute (place : Nat → Nat) (b : Block) : Block :=
  Blake2b.quads.foldl (fun b (i, j, k, l) =>
    Blake2b.mixAt mix b (place i) (place j) (place k) (place l)) b

/-- Mixes every row of a block: sixteen words next to each other. -/
def mixRows (b : Block) : Block :=
  (List.range 8).foldl (fun b row => permute (fun i => 16 * row + i) b) b

def mixColumns (b : Block) : Block :=
  (List.range 8).foldl (fun b column => permute (fun i => 2 * column + 16 * (i / 2) + i % 2) b) b

/-- Two blocks worked into one. -/
def compress (x y : Block) : Block :=
  let r := xorBlock x y
  xorBlock r (mixColumns (mixRows r))

/-- The first halves of `n` hashes, each of the one before, and then a hash of `size` bytes of the
last. -/
def hashChain (size : Nat) : Nat → Bytes → Bytes
  | 0, v => Blake2b.hash size v
  | n + 1, v =>
    let next := Blake2b.hash 64 v
    next.take 32 ++ hashChain size n next

def longHash (size : Nat) (message : Bytes) : Bytes :=
  let message := Bytes.littleEndian 4 size ++ message
  if size ≤ 64 then Blake2b.hash size message
  else
    let halves := (size + 31) / 32 - 2
    hashChain (size - 32 * halves) halves message

/-- What the work depends on. Costs are the number of passes, the memory in KiB and the number of
lanes. -/
structure Params where
  passes : Nat
  memory : Nat
  lanes : Nat

namespace Params

/-- The number of blocks in a quarter of a lane. -/
def segment (p : Params) : Nat :=
  p.memory / (4 * p.lanes)

def laneLength (p : Params) : Nat :=
  4 * p.segment

def blocks (p : Params) : Nat :=
  p.laneLength * p.lanes

/-- The hash that everything else starts from. -/
def seed (p : Params) (size : Nat) (password salt : Bytes) : Bytes :=
  let n := Bytes.littleEndian 4
  Blake2b.hash 64 (n p.lanes ++ n size ++ n p.memory ++ n p.passes ++ n 0x13 ++ n 2 ++
    n password.length ++ password ++ n salt.length ++ salt ++ n 0 ++ n 0)

end Params

/-- Where a block is filled: the pass, the quarter, the lane, and the index within that quarter. -/
structure Place where
  pass : Nat
  slice : Nat
  lane : Nat
  index : Nat

/-- The random words for the blocks of a quarter that are chosen without regard to the data: those
of the `counter`th 128 blocks. -/
def addresses (p : Params) (a : Place) (counter : Nat) : Block :=
  let input := [a.pass, a.lane, a.slice, p.blocks, p.passes, 2, counter].map UInt64.ofNat
  let block := (input ++ List.replicate 121 0).toArray
  compress zeroBlock (compress zeroBlock block)

/-- The lane and the place in it of the other block that a new one depends on, given a random word.
-/
def reference (p : Params) (a : Place) (random : UInt64) : Nat × Nat :=
  let lane := if a.pass = 0 ∧ a.slice = 0 then a.lane else (random >>> 32).toNat % p.lanes
  let finished := if a.pass = 0 then a.slice * p.segment else p.laneLength - p.segment
  let area :=
    if lane = a.lane then finished + a.index - 1
    else if a.index = 0 then finished - 1
    else finished
  let x := (random &&& 0xffffffff).toNat
  let back := area * (x * x / 0x100000000) / 0x100000000
  let start := if a.pass = 0 ∨ a.slice = 3 then 0 else (a.slice + 1) * p.segment
  (lane, (start + (area - 1 - back)) % p.laneLength)

/-- Fills one block. `fixed` holds the random words that do not depend on the data, if they are
used. -/
def fillBlock (p : Params) (fixed : Option Block) (memory : Array Block) (a : Place) :
    Array Block :=
  let column := a.slice * p.segment + a.index
  let base := a.lane * p.laneLength
  let before := memory.getD (base + (column + p.laneLength - 1) % p.laneLength) zeroBlock
  let random := match fixed with
    | some words => words.getD (a.index % 128) 0
    | none => before.getD 0 0
  let (lane, place) := reference p a random
  let other := memory.getD (lane * p.laneLength + place) zeroBlock
  let block := compress before other
  if a.pass = 0 then memory.setIfInBounds (base + column) block
  else memory.modify (base + column) (xorBlock block)

def fillFrom (p : Params) : Nat → Option Block → Array Block → Place → Array Block
  | 0, _, memory, _ => memory
  | n + 1, fixed, memory, a =>
    let independent := a.pass = 0 ∧ a.slice < 2
    let fixed :=
      if independent ∧ (fixed.isNone ∨ a.index % 128 = 0) then
        some (addresses p a (a.index / 128 + 1))
      else fixed
    fillFrom p n fixed (fillBlock p fixed memory a) { a with index := a.index + 1 }

/-- Fills a quarter of a lane. The first two blocks of a lane are there from the start. -/
def fillSegment (p : Params) (memory : Array Block) (pass slice lane : Nat) : Array Block :=
  let first := if pass = 0 ∧ slice = 0 then 2 else 0
  fillFrom p (p.segment - first) none memory ⟨pass, slice, lane, first⟩

def fillPass (p : Params) (memory : Array Block) (pass : Nat) : Array Block :=
  (List.range 4).foldl (fun memory slice =>
    (List.range p.lanes).foldl (fun memory lane => fillSegment p memory pass slice lane)
      memory) memory

/-- The memory with the first two blocks of every lane. -/
def start (p : Params) (seed : Bytes) : Array Block :=
  (List.range p.lanes).foldl (fun memory lane =>
    let block (i : Nat) : Block :=
      Blake2b.words (longHash 1024 (seed ++ Bytes.littleEndian 4 i ++ Bytes.littleEndian 4 lane))
    (memory.setIfInBounds (lane * p.laneLength) (block 0)).setIfInBounds (lane * p.laneLength + 1)
      (block 1)) (Array.replicate p.blocks zeroBlock)

/-- The hash of a password in `size` bytes. -/
def derive (p : Params) (size : Nat) (password salt : Bytes) : Bytes :=
  let memory := (List.range p.passes).foldl (fillPass p) (start p (p.seed size password salt))
  let last := (List.range p.lanes).foldl (fun sum lane =>
    xorBlock sum (memory.getD ((lane + 1) * p.laneLength - 1) zeroBlock)) zeroBlock
  longHash size (Blake2b.bytes last)

end Coffer.Argon2id
