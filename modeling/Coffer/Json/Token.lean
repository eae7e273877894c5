import Coffer.Json.Basic
import Coffer.Text.Quoted

/-!
The lexical part of reading a value: brackets, separators, texts, numbers and the constant words.
Texts are sequences of characters. Where half of a surrogate pair is written on its own, which no
text can hold, the replacement character is read in its place.
-/

namespace Coffer.Json

inductive Token where
  | openArray
  | closeArray
  | openObject
  | closeObject
  | colon
  | comma
  | atom (value : Json)

def isSpace (c : Char) : Bool :=
  c == ' ' || c == '\t' || c == '\n' || c == '\r'

def isDigit (c : Char) : Bool :=
  '0' ≤ c && c ≤ '9'

/-- The value of a hexadecimal digit, in either case. -/
def hexValue? (c : Char) : Option Nat :=
  if '0' ≤ c ∧ c ≤ '9' then some (c.toNat - 48)
  else if 'a' ≤ c ∧ c ≤ 'f' then some (c.toNat - 87)
  else if 'A' ≤ c ∧ c ≤ 'F' then some (c.toNat - 55)
  else none

/-- The value of four hexadecimal digits. -/
def hex4? (a b c d : Char) : Option Nat := do
  return (← hexValue? a) * 4096 + (← hexValue? b) * 256 + (← hexValue? c) * 16 + (← hexValue? d)

/-- The character that a backslash and a letter stand for. -/
def simpleEscape? : Char → Option Char
  | '"' => some '"'
  | '\\' => some '\\'
  | '/' => some '/'
  | 'b' => some '\x08'
  | 'f' => some '\x0c'
  | 'n' => some '\n'
  | 'r' => some '\r'
  | 't' => some '\t'
  | _ => none

/-- The character of two units of a surrogate pair. -/
def joinSurrogates (high low : Nat) : Char :=
  Char.ofNat (0x10000 + (high - 0xD800) * 0x400 + (low - 0xDC00))

/-- The character of a unit on its own; half a surrogate pair becomes the replacement character. -/
def unitChar (n : Nat) : Char :=
  if 0xD800 ≤ n ∧ n ≤ 0xDFFF then '\uFFFD' else Char.ofNat n

/-- The second half of a surrogate pair, if the input goes on with its escape. -/
def lowSurrogate? : List Char → Option (Nat × List Char)
  | '\\' :: 'u' :: a :: b :: c :: d :: rest =>
    match hex4? a b c d with
    | some n => if 0xDC00 ≤ n ∧ n ≤ 0xDFFF then some (n, rest) else none
    | none => none
  | _ => none

theorem length_of_lowSurrogate {input rest : List Char} {n : Nat}
    (h : lowSurrogate? input = some (n, rest)) : rest.length < input.length := by
  unfold lowSurrogate? at h
  split at h
  · split at h
    · split at h
      · cases h; simp; omega
      · cases h
    · cases h
  · cases h

/-- The rest of a text up to its closing quote, read behind the characters `before` (last one
first), and what follows. Control characters must be escaped. -/
def text (before : List Char) (input : List Char) : Option (List Char × List Char) :=
  match input with
  | [] => none
  | '"' :: rest => some (before.reverse, rest)
  | '\\' :: 'u' :: a :: b :: c :: d :: rest =>
    match hex4? a b c d with
    | none => none
    | some n =>
      if 0xD800 ≤ n ∧ n ≤ 0xDBFF then
        match h : lowSurrogate? rest with
        | some (low, rest') =>
          have := length_of_lowSurrogate h
          text (joinSurrogates n low :: before) rest'
        | none => text (unitChar n :: before) rest
      else text (unitChar n :: before) rest
  | '\\' :: e :: rest =>
    match simpleEscape? e with
    | some c => text (c :: before) rest
    | none => none
  | c :: rest => if c.toNat < 0x20 ∨ c = '\\' then none else text (c :: before) rest
termination_by input.length

def natOfDigits (digits : List Char) : Nat :=
  digits.foldl (fun n c => n * 10 + (c.toNat - 48)) 0

/-- The longest integers that are read have this many digits. -/
def maxIntDigits : Nat := 4300

/-- The exponent part of a number, if the input goes on with one. -/
def exponent? : List Char → Option (Int × List Char)
  | c :: rest =>
    if c = 'e' ∨ c = 'E' then
      let (negative, rest) := match rest with
        | '-' :: r => (true, r)
        | '+' :: r => (false, r)
        | r => (false, r)
      let digits := rest.takeWhile isDigit
      if digits.isEmpty then none
      else
        let n : Int := natOfDigits digits
        some (if negative then -n else n, rest.dropWhile isDigit)
    else none
  | [] => none

/-- The fraction part of a number, if the input goes on with one. -/
def fraction? : List Char → Option (List Char × List Char)
  | '.' :: rest =>
    let digits := rest.takeWhile isDigit
    if digits.isEmpty then none else some (digits, rest.dropWhile isDigit)
  | _ => none

/-- The whole part of a number: a lone zero, or digits that do not start with one. -/
def whole? : List Char → Option (List Char × List Char)
  | '0' :: rest => some (['0'], rest)
  | input =>
    let digits := input.takeWhile isDigit
    if digits.isEmpty then none else some (digits, input.dropWhile isDigit)

/-- A number without its sign: an integer, or a floating-point number when it has a fraction or an
exponent. -/
def number? (negative : Bool) (input : List Char) : Option (Json × List Char) := do
  let (whole, rest) ← whole? input
  let (part, rest) := (fraction? rest).getD ([], rest)
  match part, exponent? rest with
  | [], none =>
    if whole.length > maxIntDigits then none
    else
      let n : Int := natOfDigits whole
      some (.int (if negative then -n else n), rest)
  | part, e =>
    let (e, rest) := e.getD (0, rest)
    some (.float (.ofDecimal negative (natOfDigits (whole ++ part)) (e - part.length)), rest)

def words : List (String × Json) :=
  [("null", .null), ("true", .bool true), ("false", .bool false), ("NaN", .float .nan),
    ("Infinity", .float (.infinite false)), ("-Infinity", .float (.infinite true))]

def word? (input : List Char) : Option (Json × List Char) :=
  words.findSome? fun (w, v) =>
    if w.toList.isPrefixOf input then some (v, input.drop w.length) else none

/-- The element at the start of an input that does not start with white space. -/
def next? (input : List Char) : Option (Token × List Char) :=
  match input with
  | '[' :: rest => some (.openArray, rest)
  | ']' :: rest => some (.closeArray, rest)
  | '\x7b' :: rest => some (.openObject, rest)
  | '\x7d' :: rest => some (.closeObject, rest)
  | ':' :: rest => some (.colon, rest)
  | ',' :: rest => some (.comma, rest)
  | '"' :: rest => (text [] rest).map fun (s, r) => (.atom (.str (String.ofList s)), r)
  | _ =>
    match word? input with
    | some (v, rest) => some (.atom v, rest)
    | none =>
      match input with
      | '-' :: rest => (number? true rest).map fun (v, r) => (.atom v, r)
      | _ => (number? false input).map fun (v, r) => (.atom v, r)

/-- The elements of a text, `none` when it cannot be split into elements. The budget bounds their
number. -/
def elements : Nat → List Char → Option (List Token)
  | budget, input =>
    match input.dropWhile isSpace with
    | [] => some []
    | input =>
      match budget with
      | 0 => none
      | budget + 1 =>
        match next? input with
        | some (t, rest) => (elements budget rest).map (t :: ·)
        | none => none

end Coffer.Json
