import Coffer.Filter
import Coffer.Json.Display

/-!
Drafts of filters: formulas put together by hand, whose patterns have not been read and whose parts
need not make sense. A draft can be described and tested like a filter, but either may fail.
-/

namespace Coffer

/-- An atom of a draft: a comparison named by a word, or one named by some other value, or something
that is no part of a filter at all. -/
inductive Draft.Atom where
  | predicate (subject : Subject) (word : Json) (value : String)
  | foreign (value : Json)
deriving DecidableEq

/-- A formula whose atoms have not been checked. -/
abbrev Draft := Formula Draft.Atom

inductive DraftError where
  | notAFilter (value : Json)
  | unknownWord (word : Json)
  /-- A comparison without a word cannot be written down. -/
  | wordless
  | pattern (e : Pattern.Error) (source : String)
deriving DecidableEq

/-- The complaint, for the errors that have a text of their own. -/
def DraftError.message? : DraftError → Option String
  | .notAFilter v => some ("not a filter expression: " ++ String.ofList v.inner)
  | .unknownWord w => some ("unknown operator: " ++ String.ofList w.inner)
  | .wordless | .pattern .. => none

namespace Draft

/-- The comparison of an atom, read only when it is needed. -/
def comparison (word : Json) (value : String) : Except DraftError Comparison :=
  match word with
  | .str w =>
    match Comparison.ofWord? w value with
    | some (.ok c) => .ok c
    | some (.error e) => .error (.pattern e value)
    | none => .error (.unknownWord word)
  | _ => .error (.unknownWord word)

/-- Tests an atom. An atom about a part that the record lacks is false, whatever its comparison. -/
def Atom.test (r : Record) : Atom → Except DraftError Bool
  | .foreign v => .error (.notAFilter v)
  | .predicate subject word value =>
    match subject.of r with
    | none => .ok false
    | some text => (comparison word value).map (·.accepts text)

def test (d : Draft) (r : Record) : Except DraftError Bool :=
  Formula.decide (Atom.test r) d

def Atom.describe : Atom → Except DraftError String
  | .foreign v => .error (.notAFilter v)
  | .predicate subject word value =>
    match word with
    | .str w =>
      if w ∈ ["is", "contains", "matches"] then
        .ok (subject.text ++ " " ++ w ++ " '" ++ value ++ "'")
      else .error .wordless
    | _ => .error .wordless

def describe : Draft → Except DraftError String
  | .atom a => a.describe
  | .and l r => do return (← describe l) ++ " and " ++ (← describe r)
  | .or l r => do return (← describe l) ++ " or " ++ (← describe r)
  | .group e => do return "(" ++ (← describe e) ++ ")"

end Draft

end Coffer
