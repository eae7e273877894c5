import Coffer.Number.Binary64

/-!
Floating-point numbers with a fixed number of decimals, with an exponent, or in whichever of the two
forms suits their size. The exact value is rounded to the nearest decimal, a half to the even
neighbour.
-/

namespace Coffer.Binary64

/-- The exact value of a finite number without its sign, as a fraction. -/
def fraction (significand : Nat) (exponent : Int) : Nat × Nat :=
  (significand * Nat.pow 2 exponent.toNat, Nat.pow 2 (-exponent).toNat)

/-- A point and the digits behind it; a lone point only if wanted. -/
def pointed (alt : Bool) (part : List Char) : List Char :=
  if part.isEmpty ∧ !alt then [] else '.' :: part

/-- The number `num / den` with `places` decimals. -/
def fixed (alt : Bool) (places num den : Nat) : List Char :=
  let digits := padDigits (places + 1) (roundDiv (num * Nat.pow 10 places) den)
  let whole := digits.length - places
  digits.take whole ++ pointed alt (digits.drop whole)

/-- The digits of `num / den`, `places` of them behind the first, and the power of ten of the first.
-/
def leading (places num den : Nat) : Nat × Int :=
  if num = 0 then (0, 0)
  else
    let top := decimalTop num den - 1
    let (n, d) := scaleDown 10 num den (top - places)
    let digits := roundDiv n d
    if digits ≥ Nat.pow 10 (places + 1) then (digits / 10, top + 1) else (digits, top)

/-- The number `num / den` with one digit before the point, `places` behind it, and an exponent. -/
def scientific (alt : Bool) (mark : Char) (places num den : Nat) : List Char :=
  let (n, e) := leading places num den
  let digits := padDigits (places + 1) n
  digits.take 1 ++ pointed alt (digits.drop 1) ++ exponentText mark e

/-- Digits without zeros at the end, and without a point that would be last then. -/
def stripZeros (cs : List Char) : List Char :=
  if '.' ∈ cs then
    match cs.reverse.dropWhile (· == '0') with
    | '.' :: rest => rest.reverse
    | rest => rest.reverse
  else cs

/-- The number `num / den` in `digits` significant digits, with an exponent if it is very small or
has more digits before the point than that. -/
def general (alt : Bool) (mark : Char) (digits num den : Nat) : List Char :=
  let digits := if digits = 0 then 1 else digits
  let (n, e) := leading (digits - 1) num den
  let strip (cs : List Char) : List Char := if alt then cs else stripZeros cs
  if -4 ≤ e ∧ e < digits then strip (fixed alt ((digits : Int) - 1 - e).toNat num den)
  else
    let ds := padDigits digits n
    strip (ds.take 1 ++ pointed alt (ds.drop 1)) ++ exponentText mark e

end Coffer.Binary64
