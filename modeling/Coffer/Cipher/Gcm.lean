import Coffer.Cipher.Aes

/-!
Authenticated encryption: AES in counter mode, with a tag of sixteen bytes over the encrypted text
and over data that is only authenticated. The nonce has twelve bytes.
-/

namespace Coffer.Gcm

/-! ### The tag's polynomial -/

/-- An element of the field of 2¹²⁸ elements; the first bit is the top one of `high`. -/
structure Element where
  high : UInt64
  low : UInt64
deriving DecidableEq, Repr, Inhabited

def Element.add (x y : Element) : Element :=
  ⟨x.high ^^^ y.high, x.low ^^^ y.low⟩

/-- The element times the field's generator. -/
@[inline]
def Element.step (x : Element) : Element :=
  ⟨(x.high >>> 1) ^^^ (if x.low &&& 1 = 0 then 0 else 0xe100000000000000),
    (x.low >>> 1) ||| (x.high <<< 63)⟩

/-- Adds to `sum` the product of `x` and the first `n` bits of `y`. -/
def mulBits : Nat → UInt64 → Element → Element → Element × Element
  | 0, _, x, sum => (x, sum)
  | n + 1, y, x, sum =>
    mulBits n (y <<< 1) x.step (if y &&& 0x8000000000000000 = 0 then sum else sum.add x)

def Element.mul (x y : Element) : Element :=
  let (x, sum) := mulBits 64 y.high x ⟨0, 0⟩
  (mulBits 64 y.low x sum).2

def Element.ofBlock (b : Aes.Block) : Element :=
  ⟨b.c0.toUInt64 <<< 32 ||| b.c1.toUInt64, b.c2.toUInt64 <<< 32 ||| b.c3.toUInt64⟩

def Element.toBlock (x : Element) : Aes.Block :=
  ⟨(x.high >>> 32).toUInt32, x.high.toUInt32, (x.low >>> 32).toUInt32, x.low.toUInt32⟩

/-- The polynomial whose coefficients are blocks of sixteen bytes, at the point `h`. -/
def digest (h : Element) (bs : Bytes) : Element :=
  (Bytes.chunks 16 bs).foldl (fun sum block =>
    (sum.add (.ofBlock (.ofBytes block))).mul h) ⟨0, 0⟩

/-! ### Sealing -/

def counter (nonce : Bytes) (n : Nat) : Aes.Block :=
  .ofBytes (nonce ++ Bytes.bigEndian 4 n)

/-- The first `blocks` blocks of the stream that a text is combined with. -/
def keyStream (w : Aes.Schedule) (nonce : Bytes) (blocks : Nat) : Bytes :=
  (List.range blocks).flatMap fun i => (Aes.encrypt w (counter nonce (i + 2))).bytes

/-- A text combined with the key stream. Doing it twice gives the text back. -/
def combine (w : Aes.Schedule) (nonce text : Bytes) : Bytes :=
  Bytes.xor text (keyStream w nonce ((text.length + 15) / 16))

def tagSize : Nat := 16

/-- The tag of an encrypted text and of data that is only authenticated. -/
def tag (w : Aes.Schedule) (nonce data ciphertext : Bytes) : Bytes :=
  let h := Element.ofBlock (Aes.encrypt w ⟨0, 0, 0, 0⟩)
  let sum := digest h (Bytes.padded 16 data ++ Bytes.padded 16 ciphertext ++
    Bytes.bigEndian 8 (8 * data.length) ++ Bytes.bigEndian 8 (8 * ciphertext.length))
  (sum.toBlock.xor (Aes.encrypt w (counter nonce 1))).bytes

def encrypt (key nonce data text : Bytes) : Bytes :=
  let w := Aes.schedule key
  let ciphertext := combine w nonce text
  ciphertext ++ tag w nonce data ciphertext

/-- The text of an encrypted one, if its tag is the right one. -/
def decrypt? (key nonce data sealed : Bytes) : Option Bytes :=
  let w := Aes.schedule key
  let ciphertext := sealed.take (sealed.length - tagSize)
  if sealed.drop (sealed.length - tagSize) = tag w nonce data ciphertext then
    some (combine w nonce ciphertext)
  else none

end Coffer.Gcm
