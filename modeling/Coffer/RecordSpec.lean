import Coffer.Filter.Parser

/-!
Record specs: a name and the fields to store under it, each with its value, and marked as sensitive
by a word before or behind its key. Directly before a `=` such a word is the key itself.
-/

namespace Coffer

/-- A record's name and the fields to store under it, in order. -/
structure RecordSpec where
  name : String
  fields : List Field
deriving DecidableEq, Repr

namespace RecordSpec

def current (ts : List Token) : Token :=
  ts.headD (.stop 0)

/-- Takes a token that can be a name, a key or a value. -/
def takeValue (what : String) (ts : List Token) : Except ReadError (Token × List Token) :=
  match ts with
  | t :: rest => if t.isValue then .ok (t, rest) else .error (t.fault (.expected what t))
  | [] => .error ((current ts).fault (.expected what (current ts)))

/-- Takes a token that can be a name or a key, which must not be empty. -/
def takeName (what : String) (ts : List Token) : Except ReadError (Token × List Token) := do
  let (t, rest) ← takeValue what ts
  if t.text = "" then .error (t.fault (.empty what))
  return (t, rest)

/-- A word that marks a field as sensitive. -/
def isModifier (t : Token) : Bool :=
  t.isWord "sensitive" || t.isWord "secret"

/-- Takes a marking word in front of a key, and tells whether there was one. -/
def leadingModifier : List Token → Bool × List Token
  | t :: rest =>
    if isModifier t && !(current rest).isPunctuation "=" then (true, rest) else (false, t :: rest)
  | [] => (false, [])

/-- Takes a marking word behind a key, and tells whether there was one. -/
def trailingModifier : List Token → Bool × List Token
  | t :: rest => if isModifier t then (true, rest) else (false, t :: rest)
  | [] => (false, [])

/-- Takes the sign between key and value. -/
def takeEquals (ts : List Token) : Except ReadError (List Token) :=
  match ts with
  | t :: rest =>
    if t.isPunctuation "=" then .ok rest else .error (t.fault (.expected "'='" t))
  | [] => .error ((current ts).fault (.expected "'='" (current ts)))

/-- Takes one field, whose key must be none of those seen before. -/
def takeField (seen : List String) (ts : List Token) : Except ReadError (Field × List Token) := do
  let (marked, ts) := leadingModifier ts
  let (key, ts) ← takeName "a field name" ts
  if key.text ∈ seen then .error (key.fault (.repeatedKey key.text))
  let (alsoMarked, ts) := trailingModifier ts
  let (value, ts) ← takeValue "a value" (← takeEquals ts)
  return (⟨key.text, value.text, marked || alsoMarked⟩, ts)

/-- Takes fields up to the sentinel; the budget bounds their number. -/
def takeFields : Nat → List String → List Token → Except ReadError (List Field)
  | 0, _, _ => .ok []
  | budget + 1, seen, ts => do
    if (current ts).isStop then return []
    let (f, rest) ← takeField seen ts
    return f :: (← takeFields budget (f.key :: seen) rest)

def ofTokens (ts : List Token) : Except ReadError RecordSpec := do
  let (name, rest) ← takeName "a record name" (Token.terminated ts)
  return ⟨name.text, ← takeFields rest.length [] rest⟩

def parse (text : String) : Except ReadError RecordSpec :=
  match Token.tokenize text with
  | .ok ts => ofTokens ts
  | .error e => .error (.lex e)

end RecordSpec

end Coffer
