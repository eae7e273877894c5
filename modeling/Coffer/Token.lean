import Coffer.Text.Case
import Coffer.Text.Quoted

/-!
Tokens of the command and filter languages. A token keeps the offset of its first character, so that
every later complaint can point into the line that was typed.
-/

namespace Coffer

/-- What a token is. A keyword is a reserved word of the filter language; command words are plain
identifiers. -/
inductive Token.Kind where
  | identifier
  | literal
  | keyword
  | punctuation
  | endOfInput
deriving DecidableEq, Repr

def Token.Kind.label : Token.Kind → String
  | .identifier => "identifier"
  | .literal => "string"
  | .keyword => "keyword"
  | .punctuation => "punctuation"
  | .endOfInput => "end of input"

/-- A token: its kind, its text (for a literal without quotes and escapes, for a keyword in lower
case) and the offset of its first character. -/
structure Token where
  kind : Token.Kind
  text : String
  position : Nat
deriving DecidableEq, Repr

namespace Token

def stop (position : Nat) : Token :=
  ⟨.endOfInput, "", position⟩

def isStop (t : Token) : Bool :=
  t.kind == .endOfInput

def isPunctuation (t : Token) (symbol : String) : Bool :=
  t.kind == .punctuation && t.text == symbol

def isKeyword (t : Token) (word : String) : Bool :=
  t.kind == .keyword && t.text == word

/-- Identifiers and literals may stand for names, keys and values. -/
def isValue (t : Token) : Bool :=
  t.kind == .identifier || t.kind == .literal

/-- An unquoted word equal to `word` up to letter case. -/
def isWord (t : Token) (word : String) : Bool :=
  t.kind == .identifier && Text.lowerWord t.text.toList == word.toList

def describe (t : Token) : String :=
  match t.kind with
  | .endOfInput => "end of input"
  | kind => kind.label ++ " '" ++ t.text ++ "'"

/-- A token list with a sentinel at its end: one is added behind the last token if there is none. -/
def terminated (ts : List Token) : List Token :=
  match ts.getLast? with
  | none => [stop 0]
  | some t => if t.isStop then ts else ts ++ [stop (t.position + t.text.length)]

end Token

end Coffer
