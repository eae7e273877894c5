import Coffer.Json.Basic
import Coffer.Text.Quoted

/-!
How a value is shown where a text is wanted, and whether it counts as a yes.
-/

namespace Coffer.Json

mutual

/-- A value as part of a shown one: texts are quoted. -/
def inner : Json → List Char
  | .null => "None".toList
  | .bool b => if b then "True".toList else "False".toList
  | .int n => (toString n).toList
  | .float x => x.text.toList
  | .str s => Text.quoted s.toList
  | .arr items => '[' :: innerItems items ++ [']']
  | .obj members => '\x7b' :: innerMembers members ++ ['\x7d']

def innerItems : List Json → List Char
  | [] => []
  | [v] => inner v
  | v :: rest => inner v ++ ", ".toList ++ innerItems rest

def innerMembers : List (String × Json) → List Char
  | [] => []
  | [(k, v)] => Text.quoted k.toList ++ ": ".toList ++ inner v
  | (k, v) :: rest =>
    Text.quoted k.toList ++ ": ".toList ++ inner v ++ ", ".toList ++ innerMembers rest

end

/-- The text of a value. A text stands for itself. -/
def display : Json → String
  | .str s => s
  | v => String.ofList (inner v)

/-- Whether a value counts as a yes: nothing, zero and whatever is empty do not. -/
def isTruthy : Json → Bool
  | .null => false
  | .bool b => b
  | .int n => n ≠ 0
  | .float (.finite _ significand _) => significand ≠ 0
  | .float _ => true
  | .str s => s ≠ ""
  | .arr items => !items.isEmpty
  | .obj members => !members.isEmpty

end Coffer.Json
