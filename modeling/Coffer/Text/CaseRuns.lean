/-!
Tables that map characters to others: runs of evenly spaced characters moved by one distance, and
single characters replaced by several.
-/

namespace Coffer.Text

/-- The characters `first`, `first + step`, … up to `last`, each moved by `shift`. -/
structure CaseRun where
  first : Nat
  last : Nat
  step : Nat
  shift : Int
deriving Inhabited

/-- Runs in ascending order, none overlapping another. -/
structure CaseRuns where
  runs : Array CaseRun

/-- The number of runs among `[lo, hi)` that start at or below `n`, counted from the table's start.
-/
def CaseRuns.bisect (t : CaseRuns) (n : Nat) (lo hi : Nat) : Nat :=
  if h : lo < hi then
    let mid := (lo + hi) / 2
    if (t.runs.getD mid default).first ≤ n then t.bisect n (mid + 1) hi else t.bisect n lo mid
  else lo
termination_by hi - lo

/-- The code point moved by the run it belongs to, or itself when it belongs to none. -/
def CaseRuns.apply (t : CaseRuns) (n : Nat) : Nat :=
  match t.bisect n 0 t.runs.size with
  | 0 => n
  | i + 1 =>
    let r := t.runs.getD i default
    if n ≤ r.last ∧ (n - r.first) % r.step = 0 then (n + r.shift).toNat else n

/-- Characters replaced by several, in ascending order. -/
structure Expansions where
  entries : Array (Nat × List Nat)

/-- The number of entries at or below `n`, by bisection. -/
def Expansions.bisect (t : Expansions) (n : Nat) (lo hi : Nat) : Nat :=
  if h : lo < hi then
    let mid := (lo + hi) / 2
    if (t.entries.getD mid default).1 ≤ n then t.bisect n (mid + 1) hi else t.bisect n lo mid
  else lo
termination_by hi - lo

/-- The replacement of a code point, if it has one. -/
def Expansions.find? (t : Expansions) (n : Nat) : Option (List Nat) :=
  match t.bisect n 0 t.entries.size with
  | 0 => none
  | i + 1 =>
    let e := t.entries.getD i default
    if e.1 = n then some e.2 else none

end Coffer.Text
