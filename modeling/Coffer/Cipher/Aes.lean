import Coffer.Bytes

/-!
The block cipher AES with keys of 256 bits, in the direction of encryption. A block is four columns
of four bytes, each column a word with its first byte on top.
-/

namespace Coffer.Aes

/-! ### Substitution -/

/-- Twice an element of the field of 256 elements. -/
def double (x : UInt8) : UInt8 :=
  (x <<< 1) ^^^ (if x &&& 0x80 = 0 then 0 else 0x1b)

/-- The byte that stands for each byte: its inverse in the field, and of that a sum of rotations. -/
def substitutes : Array UInt8 :=
  #[0x63, 0x7c, 0x77, 0x7b, 0xf2, 0x6b, 0x6f, 0xc5, 0x30, 0x01, 0x67, 0x2b, 0xfe, 0xd7, 0xab, 0x76,
    0xca, 0x82, 0xc9, 0x7d, 0xfa, 0x59, 0x47, 0xf0, 0xad, 0xd4, 0xa2, 0xaf, 0x9c, 0xa4, 0x72, 0xc0,
    0xb7, 0xfd, 0x93, 0x26, 0x36, 0x3f, 0xf7, 0xcc, 0x34, 0xa5, 0xe5, 0xf1, 0x71, 0xd8, 0x31, 0x15,
    0x04, 0xc7, 0x23, 0xc3, 0x18, 0x96, 0x05, 0x9a, 0x07, 0x12, 0x80, 0xe2, 0xeb, 0x27, 0xb2, 0x75,
    0x09, 0x83, 0x2c, 0x1a, 0x1b, 0x6e, 0x5a, 0xa0, 0x52, 0x3b, 0xd6, 0xb3, 0x29, 0xe3, 0x2f, 0x84,
    0x53, 0xd1, 0x00, 0xed, 0x20, 0xfc, 0xb1, 0x5b, 0x6a, 0xcb, 0xbe, 0x39, 0x4a, 0x4c, 0x58, 0xcf,
    0xd0, 0xef, 0xaa, 0xfb, 0x43, 0x4d, 0x33, 0x85, 0x45, 0xf9, 0x02, 0x7f, 0x50, 0x3c, 0x9f, 0xa8,
    0x51, 0xa3, 0x40, 0x8f, 0x92, 0x9d, 0x38, 0xf5, 0xbc, 0xb6, 0xda, 0x21, 0x10, 0xff, 0xf3, 0xd2,
    0xcd, 0x0c, 0x13, 0xec, 0x5f, 0x97, 0x44, 0x17, 0xc4, 0xa7, 0x7e, 0x3d, 0x64, 0x5d, 0x19, 0x73,
    0x60, 0x81, 0x4f, 0xdc, 0x22, 0x2a, 0x90, 0x88, 0x46, 0xee, 0xb8, 0x14, 0xde, 0x5e, 0x0b, 0xdb,
    0xe0, 0x32, 0x3a, 0x0a, 0x49, 0x06, 0x24, 0x5c, 0xc2, 0xd3, 0xac, 0x62, 0x91, 0x95, 0xe4, 0x79,
    0xe7, 0xc8, 0x37, 0x6d, 0x8d, 0xd5, 0x4e, 0xa9, 0x6c, 0x56, 0xf4, 0xea, 0x65, 0x7a, 0xae, 0x08,
    0xba, 0x78, 0x25, 0x2e, 0x1c, 0xa6, 0xb4, 0xc6, 0xe8, 0xdd, 0x74, 0x1f, 0x4b, 0xbd, 0x8b, 0x8a,
    0x70, 0x3e, 0xb5, 0x66, 0x48, 0x03, 0xf6, 0x0e, 0x61, 0x35, 0x57, 0xb9, 0x86, 0xc1, 0x1d, 0x9e,
    0xe1, 0xf8, 0x98, 0x11, 0x69, 0xd9, 0x8e, 0x94, 0x9b, 0x1e, 0x87, 0xe9, 0xce, 0x55, 0x28, 0xdf,
    0x8c, 0xa1, 0x89, 0x0d, 0xbf, 0xe6, 0x42, 0x68, 0x41, 0x99, 0x2d, 0x0f, 0xb0, 0x54, 0xbb, 0x16]

/-- The byte that stands for a byte, as a word. -/
@[inline]
def lookup (x : UInt32) : UInt32 :=
  (substitutes.getD (x &&& 0xff).toNat 0).toUInt32

/-! ### Rounds -/

structure Block where
  c0 : UInt32
  c1 : UInt32
  c2 : UInt32
  c3 : UInt32
deriving DecidableEq, Repr, Inhabited

def Block.xor (x y : Block) : Block :=
  ⟨x.c0 ^^^ y.c0, x.c1 ^^^ y.c1, x.c2 ^^^ y.c2, x.c3 ^^^ y.c3⟩

/-- The column whose four bytes are substituted from one column each. -/
@[inline]
def gather (a b c d : UInt32) : UInt32 :=
  (lookup (a >>> 24) <<< 24) ||| (lookup (b >>> 16) <<< 16) ||| (lookup (c >>> 8) <<< 8) |||
    lookup d

/-- Substitutes every byte and turns row `i` left by `i` places. -/
def Block.shuffle (x : Block) : Block :=
  ⟨gather x.c0 x.c1 x.c2 x.c3, gather x.c1 x.c2 x.c3 x.c0, gather x.c2 x.c3 x.c0 x.c1,
    gather x.c3 x.c0 x.c1 x.c2⟩

/-- A word turned left by `n` bits, for `n` between 1 and 31. -/
@[inline]
def rotateWord (x n : UInt32) : UInt32 :=
  (x <<< n) ||| (x >>> (32 - n))

@[inline]
def doubleColumn (x : UInt32) : UInt32 :=
  ((x &&& 0x7f7f7f7f) <<< 1) ^^^ (((x >>> 7) &&& 0x01010101) * 0x1b)

/-- Mixes the bytes of a column: each becomes twice itself, three times the next and the sum of the
other two. -/
def mixColumn (x : UInt32) : UInt32 :=
  let y := rotateWord x 8
  doubleColumn (x ^^^ y) ^^^ y ^^^ rotateWord x 16 ^^^ rotateWord x 24

def Block.mix (x : Block) : Block :=
  ⟨mixColumn x.c0, mixColumn x.c1, mixColumn x.c2, mixColumn x.c3⟩

/-! ### Keys -/

abbrev Schedule := Array UInt32

def substituteColumn (x : UInt32) : UInt32 :=
  gather x x x x

def nextWord (w : Schedule) : UInt32 :=
  let i := w.size
  let last := w.getD (i - 1) 0
  let new :=
    if i % 8 = 0 then
      substituteColumn (rotateWord last 8) ^^^ ((Nat.repeat double (i / 8 - 1) 1).toUInt32 <<< 24)
    else if i % 8 = 4 then substituteColumn last
    else last
  w.getD (i - 8) 0 ^^^ new

/-- The schedule with `n` more words. -/
def extend : Nat → Schedule → Schedule
  | 0, w => w
  | n + 1, w => extend n (w.push (nextWord w))

def word (bs : Bytes) : UInt32 :=
  bs.foldl (fun w b => w <<< 8 ||| b.toUInt32) 0

def schedule (key : Bytes) : Schedule :=
  extend 52 ((Bytes.chunks 4 key).map word).toArray

def roundKey (w : Schedule) (n : Nat) : Block :=
  ⟨w.getD (4 * n) 0, w.getD (4 * n + 1) 0, w.getD (4 * n + 2) 0, w.getD (4 * n + 3) 0⟩

def rounds (w : Schedule) : Nat → Block → Block
  | 0, x => x
  | n + 1, x => rounds w n (x.shuffle.mix.xor (roundKey w (13 - n)))

def encrypt (w : Schedule) (x : Block) : Block :=
  (rounds w 13 (x.xor (roundKey w 0))).shuffle.xor (roundKey w 14)

def Block.ofBytes (bs : Bytes) : Block :=
  ⟨word (bs.take 4), word ((bs.drop 4).take 4), word ((bs.drop 8).take 4),
    word ((bs.drop 12).take 4)⟩

def columnBytes (x : UInt32) : Bytes :=
  [(x >>> 24).toUInt8, (x >>> 16).toUInt8, (x >>> 8).toUInt8, x.toUInt8]

def Block.bytes (x : Block) : Bytes :=
  columnBytes x.c0 ++ columnBytes x.c1 ++ columnBytes x.c2 ++ columnBytes x.c3

@[simp]
theorem Block.length_bytes (x : Block) : x.bytes.length = 16 := rfl

end Coffer.Aes
