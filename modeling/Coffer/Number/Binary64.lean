/-!
Floating-point numbers of 64 bits, in exact integer arithmetic: the number nearest to a decimal, and
the shortest decimal that reads back as a given number.
-/

namespace Coffer

/-- A 64-bit floating-point number. A finite one is `significand * 2 ^ exponent`, with a significand
of at most 53 bits. -/
inductive Binary64 where
  | nan
  | infinite (negative : Bool)
  | finite (negative : Bool) (significand : Nat) (exponent : Int)
deriving DecidableEq, Repr, Inhabited

namespace Binary64

def minExponent : Int := -1074

def maxExponent : Int := 971

/-- The quotient rounded to the nearest integer, a half to the even neighbour. -/
def roundDiv (num den : Nat) : Nat :=
  let q := num / den
  let twice := 2 * (num % den)
  if twice < den ∨ (twice = den ∧ q % 2 = 0) then q else q + 1

/-- The fraction `num / den` times `base ^ (-e)`, as a fraction. -/
def scaleDown (base num den : Nat) (e : Int) : Nat × Nat :=
  if e < 0 then (num * Nat.pow base (-e).toNat, den) else (num, den * Nat.pow base e.toNat)

/-- The exponent at which `num / den` has 53 binary digits before the point. -/
def unitExponent (num den : Nat) : Int :=
  let low : Int := (num.log2 : Int) - den.log2 - 53
  let x := scaleDown 2 num den low
  if x.1 < x.2 * Nat.pow 2 53 then low else low + 1

/-- The number `m * 2 ^ e`, unless it is too large. -/
def bounded (negative : Bool) (m : Nat) (e : Int) : Binary64 :=
  if e > maxExponent then .infinite negative else .finite negative m e

/-- The number `m * 2 ^ e`, with a significand that may have been rounded up to 54 bits. -/
def ofRounded (negative : Bool) (m : Nat) (e : Int) : Binary64 :=
  if m = Nat.pow 2 53 then bounded negative (Nat.pow 2 52) (e + 1) else bounded negative m e

/-- The floating-point number nearest to `num / den`. -/
def ofFraction (negative : Bool) (num den : Nat) : Binary64 :=
  if num = 0 then .finite negative 0 minExponent
  else
    let e := max (unitExponent num den) minExponent
    let x := scaleDown 2 num den e
    ofRounded negative (roundDiv x.1 x.2) e

def digitCount (n : Nat) : Nat :=
  if n = 0 then 0 else (toString n).length

/-- The floating-point number nearest to `digits * 10 ^ exponent`. Decimals far outside the range
are settled by their magnitude alone. -/
def ofDecimal (negative : Bool) (digits : Nat) (exponent : Int) : Binary64 :=
  let magnitude := digitCount digits + exponent
  if digits = 0 ∨ magnitude < -400 then .finite negative 0 minExponent
  else if magnitude > 400 then .infinite negative
  else if exponent < 0 then ofFraction negative digits (Nat.pow 10 (-exponent).toNat)
  else ofFraction negative (digits * Nat.pow 10 exponent.toNat) 1

structure Decimal where
  digits : Nat
  exponent : Int
deriving DecidableEq, Repr

/-- Whether `c * 10 ^ k` is within the given bounds, which are quarters over `den`; `closed` tells
whether the bounds count. -/
def isWithin (low high den : Nat) (closed : Bool) (k : Int) (c : Nat) : Bool :=
  let value := c * Nat.pow 10 k.toNat * 4 * den
  let scale := Nat.pow 10 (-k).toNat
  if closed then low * scale ≤ value && value ≤ high * scale
  else low * scale < value && value < high * scale

/-- Of the two multiples of `10 ^ k` next to `4 * mid / den`, the nearest among those within the
given bounds. -/
def nearestOnGrid (low mid high den : Nat) (closed : Bool) (k : Int) : Option Decimal :=
  let x := scaleDown 10 mid (4 * den) k
  let below := x.1 / x.2
  let twice := 2 * (x.1 % x.2)
  let nearBelow : Bool := twice < x.2 || (twice == x.2 && below % 2 == 0)
  match isWithin low high den closed k below, isWithin low high den closed k (below + 1) with
  | true, true => some ⟨if nearBelow then below else below + 1, k⟩
  | true, false => some ⟨below, k⟩
  | false, true => some ⟨below + 1, k⟩
  | false, false => none

/-- Tries grids of `places`, `places + 1`, … digits and takes the first that has a decimal. -/
def searchGrids (low mid high den : Nat) (closed : Bool) (top : Int) : Nat → Nat → Decimal
  | 0, places => ⟨0, top - places⟩
  | tries + 1, places =>
    match nearestOnGrid low mid high den closed (top - places) with
    | some d => d
    | none => searchGrids low mid high den closed top tries (places + 1)

/-- The least `t` with `num / den < 10 ^ t`, for a positive fraction. -/
def decimalTop (num den : Nat) : Int :=
  let guess : Int := (digitCount num : Int) - digitCount den
  let x := scaleDown 10 num den guess
  if x.1 < x.2 then guess else guess + 1

/-- A decimal without zeros at the end of its digits. -/
def Decimal.trim : Nat → Decimal → Decimal
  | 0, d => d
  | n + 1, d =>
    if d.digits % 10 = 0 ∧ d.digits ≠ 0 then trim n ⟨d.digits / 10, d.exponent + 1⟩ else d

/-- The shortest decimal that reads back as `significand * 2 ^ exponent`, the nearest of those,
without zeros at its end. -/
def shortest (significand : Nat) (exponent : Int) : Decimal :=
  if significand = 0 then ⟨0, 0⟩
  else
    let num := significand * Nat.pow 2 exponent.toNat
    let den := Nat.pow 2 (-exponent).toNat
    let unit := Nat.pow 2 exponent.toNat
    let low :=
      if significand = Nat.pow 2 52 ∧ exponent > minExponent then 4 * num - unit
      else 4 * num - 2 * unit
    let high := 4 * num + 2 * unit
    (searchGrids low (4 * num) high den (significand % 2 == 0) (decimalTop num den) 17 1).trim 20

def padDigits (width n : Nat) : List Char :=
  let digits := (toString n).toList
  List.replicate (width - digits.length) '0' ++ digits

def exponentText (mark : Char) (e : Int) : List Char :=
  mark :: (if e < 0 then '-' else '+') :: padDigits 2 e.natAbs

/-- A positive decimal, with a point and at least one digit on either side of it while the point
falls within sixteen digits or at most three zeros behind it, and otherwise with an exponent. -/
def Decimal.text (d : Decimal) : List Char :=
  let digits := (toString d.digits).toList
  let point : Int := digits.length + d.exponent
  if point ≤ 0 ∧ -4 < point then
    '0' :: '.' :: (List.replicate (-point).toNat '0' ++ digits)
  else if 0 < point ∧ point ≤ 16 then
    let p := point.toNat
    let whole := digits.take p ++ List.replicate (p - digits.length) '0'
    let part := digits.drop p
    whole ++ '.' :: (if part.isEmpty then ['0'] else part)
  else
    let part := if digits.length > 1 then '.' :: digits.drop 1 else []
    digits.take 1 ++ part ++ exponentText 'e' (point - 1)

/-- The text of a number, in the shortest digits that read back as it. -/
def text : Binary64 → String
  | .nan => "nan"
  | .infinite negative => if negative then "-inf" else "inf"
  | .finite negative significand exponent =>
    (if negative then "-" else "") ++
      if significand = 0 then "0.0" else String.ofList (shortest significand exponent).text

end Binary64

end Coffer
