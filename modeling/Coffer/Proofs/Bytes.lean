import Coffer.Bytes
import Mathlib.Algebra.Group.Nat.Defs

/-!
Numbers and texts as bytes can be read back (`ofLittleEndian_littleEndian`, `toText?_ofText`), bytes
that were read as a number can be written back (`littleEndian_ofLittleEndian`), and combining with
the same bytes twice changes nothing (`xor_xor`).
-/

namespace Coffer.Bytes

/-- A number that fits into its bytes is the one they spell. -/
theorem ofLittleEndian_littleEndian {width n : Nat} (h : n < 256 ^ width) :
    ofLittleEndian (littleEndian width n) = n := by
  induction width generalizing n with
  | zero =>
    have h0 : n = 0 := by simpa using h
    rw [h0, littleEndian, ofLittleEndian]
  | succ width ih =>
    have hrest : n / 256 < 256 ^ width := by
      rw [Nat.pow_succ] at h
      omega
    rw [littleEndian, ofLittleEndian, ih hrest, UInt8.toNat_ofNat']
    omega

theorem ofLittleEndian_lt (bs : Bytes) : ofLittleEndian bs < 256 ^ bs.length := by
  induction bs with
  | nil => decide
  | cons b bs ih =>
    have hb := b.toNat_lt
    rw [ofLittleEndian, List.length_cons, Nat.pow_succ]
    omega

/-- Bytes are what the number they spell is in as many bytes. -/
theorem littleEndian_ofLittleEndian (bs : Bytes) :
    littleEndian bs.length (ofLittleEndian bs) = bs := by
  induction bs with
  | nil => rfl
  | cons b bs ih =>
    have hb := b.toNat_lt
    have hhigh : (b.toNat + 256 * ofLittleEndian bs) / 256 = ofLittleEndian bs := by omega
    have hlow : UInt8.ofNat (b.toNat + 256 * ofLittleEndian bs) = b := by
      apply UInt8.toNat_inj.mp
      rw [UInt8.toNat_ofNat']
      omega
    rw [List.length_cons, ofLittleEndian, littleEndian, hhigh, hlow, ih]

theorem toText?_ofText (s : String) : toText? (ofText s) = some s := by
  have hbytes : (⟨(ofText s).toArray⟩ : ByteArray) = s.toByteArray := rfl
  rw [toText?, hbytes, String.fromUTF8?, dif_pos s.isValidUTF8]
  rfl

theorem length_xor {a b : Bytes} (h : a.length ≤ b.length) : (xor a b).length = a.length := by
  rw [xor, List.length_zipWith, Nat.min_eq_left h]

/-- Combining with the same bytes twice gives the first ones back. -/
theorem xor_xor {a b : Bytes} (h : a.length ≤ b.length) : xor (xor a b) b = a := by
  induction a generalizing b with
  | nil => rfl
  | cons x a ih =>
    cases b with
    | nil => exact absurd h (by simp)
    | cons y b =>
      have hrest := ih (Nat.le_of_succ_le_succ h)
      rw [xor, xor] at hrest ⊢
      rw [List.zipWith_cons_cons, List.zipWith_cons_cons, hrest, UInt8.xor_assoc, UInt8.xor_self,
        UInt8.xor_zero]

theorem drop_append {a b : Bytes} {n : Nat} (h : a.length = n) : (a ++ b).drop n = b := by
  rw [← h, List.drop_left]

end Coffer.Bytes
