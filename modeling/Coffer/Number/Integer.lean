import Coffer.Text.Blank
import Coffer.Text.Digit

/-!
Integers as people write them: an optional sign, then digits of any script, with single underscores
allowed between digits and blanks allowed around the whole.
-/

namespace Coffer.Integer

/-- Blanks that may stand around a number: all white space except the four information separators.
-/
def isPadding (c : Char) : Bool :=
  Text.isBlank c && !(0x1C ≤ c.toNat && c.toNat ≤ 0x1F)

/-- The value of a digit below the base, letters counting on from ten. -/
def digit? (base : Nat) (c : Char) : Option Nat :=
  let value :=
    match Text.digitValue? c with
    | some d => some d
    | none =>
      if 'a' ≤ c ∧ c ≤ 'z' then some (c.toNat - 87)
      else if 'A' ≤ c ∧ c ≤ 'Z' then some (c.toNat - 55)
      else none
  value.filter (· < base)

/-- The digits of a number, without the underscores between them. -/
def digits? (base : Nat) : List Char → Option (List Nat)
  | [] => none
  | [c] => (digit? base c).map ([·])
  | c :: '_' :: rest => do return (← digit? base c) :: (← digits? base rest)
  | c :: rest => do return (← digit? base c) :: (← digits? base rest)

def maxDecimalDigits : Nat := 4300

/-- Base sixteen allows `0x` in front, with an underscore behind it. -/
def dropBaseMark (base : Nat) : List Char → List Char
  | '0' :: x :: rest =>
    if base = 16 ∧ (x = 'x' ∨ x = 'X') then
      match rest with
      | '_' :: rest' => rest'
      | _ => rest
    else '0' :: x :: rest
  | cs => cs

def magnitude? (base : Nat) (cs : List Char) : Option Nat := do
  let ds ← digits? base (dropBaseMark base cs)
  if base = 10 ∧ ds.length > maxDecimalDigits then none
  else some (ds.foldl (fun n d => n * base + d) 0)

def ofText? (base : Nat) (cs : List Char) : Option Int :=
  match ((cs.dropWhile isPadding).reverse.dropWhile isPadding).reverse with
  | '-' :: rest => (magnitude? base rest).map fun n => -(n : Int)
  | '+' :: rest => (magnitude? base rest).map fun n => (n : Int)
  | rest => (magnitude? base rest).map fun n => (n : Int)

end Coffer.Integer
