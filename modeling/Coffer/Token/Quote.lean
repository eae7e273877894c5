import Coffer.Token.Lexer

/-!
Writing any text as a literal.
-/

namespace Coffer.Token

/-- A character inside a single-quoted literal. -/
def escapeChar (c : Char) : List Char :=
  if c = '\\' ∨ c = '\'' then ['\\', c] else [c]

/-- The characters of a text as they stand between the quotes of a literal. -/
def escapeText (cs : List Char) : List Char :=
  cs.flatMap escapeChar

/-- The single-quoted literal that spells a text. -/
def quote (s : String) : String :=
  String.ofList ('\'' :: escapeText s.toList ++ ['\''])

end Coffer.Token
