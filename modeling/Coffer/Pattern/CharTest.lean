import Coffer.Pattern.Syntax
import Coffer.Text.Blank
import Coffer.Text.Case
import Coffer.Text.Digit
import Coffer.Text.Word

/-!
Tests on one character: is it the one wanted, is it in a set, is it in a class. Letter case counts,
or is ignored within ASCII, or is ignored for all scripts.
-/

namespace Coffer.Pattern

inductive CaseRule where
  | exact
  | ascii
  | wide
deriving DecidableEq, Repr

def CaseRule.lower : CaseRule → Nat → Nat
  | .exact, n => n
  | .ascii, n => Text.lowerAsciiCode n
  | .wide, n => Text.lowerCode n

/-- Other lower-case code points that stand for the same letter. -/
def CaseRule.variants : CaseRule → Nat → List Nat
  | .wide, n => (Text.variants.find? n).getD []
  | _, _ => []

/-- Whether a code point is in a class, of ASCII only or of all scripts. -/
def Category.has (class_ : Category) (ascii : Bool) (n : Nat) : Bool :=
  if ascii then
    n < 0x80 && match class_ with
      | .digit => Text.isAsciiDigit (Char.ofNat n)
      | .space => n == 0x20 || (0x09 ≤ n && n ≤ 0x0D)
      | .word => Text.isAsciiWord (Char.ofNat n)
  else
    match class_ with
    | .digit => Text.isDigit (Char.ofNat n)
    | .space => Text.isBlank (Char.ofNat n)
    | .word => Text.isWord (Char.ofNat n)

def CaseRule.lowersTo : CaseRule → Nat → List Nat
  | .exact, n => [n]
  | .ascii, n => [n, n - 32].filter fun m => Text.lowerAsciiCode m == n
  | .wide, n =>
    let moved := Text.lowerRuns.runs.toList.map fun r => ((n : Int) - r.shift).toNat
    (n :: (n - 32) :: moved).filter fun m => Text.lowerCode m == n

/-- The code points below this one are compared through their lower case in sets; the others stand
in sets as they are. -/
def foldedBelow : Nat := 0x10000

/-- Whether some code point of a range lowers to `n`, or to a variant of it. -/
def rangeHas (rule : CaseRule) (first last n : Nat) : Bool :=
  let top := Nat.min last (foldedBelow - 1)
  (n :: rule.variants n).any fun v =>
    (rule.lowersTo v).any fun m => first ≤ m && m ≤ top

/-- Whether a part of a set has a code point, which has been lowered under the rule. -/
def SetItem.has (rule : CaseRule) (ascii : Bool) (n : Nat) : SetItem → Bool
  | .category class_ negated => class_.has ascii n != negated
  | .char code =>
    if rule = .exact ∨ code ≥ foldedBelow then code == n
    else rule.lower code == n || (rule.variants (rule.lower code)).contains n
  | .range first last =>
    if rule = .exact then first ≤ n && n ≤ last
    else
      rangeHas rule first last n ||
        last ≥ foldedBelow && ((first ≤ n && n ≤ last) ||
          let upper := Text.upperCode n
          first ≤ upper && upper ≤ last)

inductive CharTest where
  | any
  | notNewline
  | char (rule : CaseRule) (code : Nat) (negated : Bool)
  | set (rule : CaseRule) (ascii : Bool) (negated : Bool) (items : List SetItem)

def CharTest.accepts (t : CharTest) (c : Char) : Bool :=
  match t with
  | .any => true
  | .notNewline => c != '\n'
  | .char rule code negated =>
    let n := rule.lower c.toNat
    let low := rule.lower code
    (low == n || (rule.variants low).contains n) != negated
  | .set rule ascii negated items =>
    let n := rule.lower c.toNat
    (items.any (·.has rule ascii n)) != negated

end Coffer.Pattern
