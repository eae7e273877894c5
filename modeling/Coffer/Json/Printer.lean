import Coffer.Json.Basic
import Coffer.Text.Quoted

/-!
The written form of a value: members and items are separated by a comma and a space, keys and values
by a colon and a space, and characters outside ASCII stand for themselves.
-/

namespace Coffer.Json

/-- A character inside a written text. -/
def escape (c : Char) : List Char :=
  if c = '"' then ['\\', '"']
  else if c = '\\' then ['\\', '\\']
  else if c = '\n' then ['\\', 'n']
  else if c = '\r' then ['\\', 'r']
  else if c = '\t' then ['\\', 't']
  else if c = '\x08' then ['\\', 'b']
  else if c = '\x0c' then ['\\', 'f']
  else if c.toNat < 0x20 then '\\' :: 'u' :: Text.hexPadded 4 c.toNat
  else [c]

def printText (s : String) : List Char :=
  '"' :: s.toList.flatMap escape ++ ['"']

/-- A floating-point number; those that are not numbers in the usual sense have words of their own.
-/
def printFloat : Binary64 → List Char
  | .nan => "NaN".toList
  | .infinite negative => if negative then "-Infinity".toList else "Infinity".toList
  | x => x.text.toList

mutual

def print : Json → List Char
  | .null => "null".toList
  | .bool b => if b then "true".toList else "false".toList
  | .int n => (toString n).toList
  | .float x => printFloat x
  | .str s => printText s
  | .arr items => '[' :: printItems items ++ [']']
  | .obj members => '\x7b' :: printMembers members ++ ['\x7d']

def printItems : List Json → List Char
  | [] => []
  | [v] => print v
  | v :: rest => print v ++ ", ".toList ++ printItems rest

def printMembers : List (String × Json) → List Char
  | [] => []
  | [(k, v)] => printText k ++ ": ".toList ++ print v
  | (k, v) :: rest => printText k ++ ": ".toList ++ print v ++ ", ".toList ++ printMembers rest

end

end Coffer.Json
