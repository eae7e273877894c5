/-!
Sequences of bytes, and numbers and texts as bytes.
-/

namespace Coffer

abbrev Bytes := List UInt8

namespace Bytes

/-- A number in `width` bytes, least significant first; what does not fit is left out. -/
def littleEndian : Nat → Nat → Bytes
  | 0, _ => []
  | width + 1, n => UInt8.ofNat n :: littleEndian width (n / 256)

/-- The number that bytes spell, least significant first. -/
def ofLittleEndian : Bytes → Nat
  | [] => 0
  | b :: rest => b.toNat + 256 * ofLittleEndian rest

/-- A number in `width` bytes, most significant first. -/
def bigEndian (width n : Nat) : Bytes :=
  (littleEndian width n).reverse

@[simp]
theorem length_littleEndian (width n : Nat) : (littleEndian width n).length = width := by
  induction width generalizing n with
  | zero => rfl
  | succ width ih => simp [littleEndian, ih]

@[simp]
theorem length_bigEndian (width n : Nat) : (bigEndian width n).length = width := by
  simp [bigEndian]

def ofText (s : String) : Bytes :=
  s.toUTF8.data.toList

/-- The text that bytes spell in UTF-8, none when they spell none. -/
def toText? (bs : Bytes) : Option String :=
  String.fromUTF8? ⟨bs.toArray⟩

/-- Bytes cut into pieces of `size`, the last of which may be shorter. -/
def chunks (size : Nat) (bs : Bytes) : List Bytes :=
  if _h : size = 0 ∨ bs = [] then []
  else bs.take size :: chunks size (bs.drop size)
termination_by bs.length
decreasing_by
  have : bs.length ≠ 0 := by simp_all
  simp only [List.length_drop]
  omega

/-- Bytes with zeros behind them, so that they fill whole pieces of `size`. -/
def padded (size : Nat) (bs : Bytes) : Bytes :=
  bs ++ List.replicate ((size - bs.length % size) % size) 0

/-- The bitwise difference of two sequences, as long as the shorter one. -/
def xor (a b : Bytes) : Bytes :=
  List.zipWith (· ^^^ ·) a b

def erased (bs : Bytes) : Bytes :=
  bs.map fun _ => 0

end Bytes

end Coffer
