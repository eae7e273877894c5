import Coffer.Pattern.Source
import Coffer.Text.Name

/-!
Escapes: a backslash and a character, with digits or a name behind them for some characters.
-/

namespace Coffer.Pattern

def isOctal (c : Char) : Bool :=
  '0' ≤ c && c ≤ '7'

def isDecimal (c : Char) : Bool :=
  '0' ≤ c && c ≤ '9'

def isLetter (c : Char) : Bool :=
  ('a' ≤ c && c ≤ 'z') || ('A' ≤ c && c ≤ 'Z')

/-- The value of a hexadecimal digit, in either case. -/
def hexDigit? (c : Char) : Option Nat :=
  if '0' ≤ c ∧ c ≤ '9' then some (c.toNat - 48)
  else if 'a' ≤ c ∧ c ≤ 'f' then some (c.toNat - 87)
  else if 'A' ≤ c ∧ c ≤ 'F' then some (c.toNat - 55)
  else none

def digitsValue (base : Nat) (digits : List Char) : Nat :=
  digits.foldl (fun n c => n * base + (hexDigit? c).getD 0) 0

inductive Escape where
  | char (code : Nat)
  | category (class_ : Category) (negated : Bool)
  | anchor (anchor : Anchor)
  | reference (group : Nat)

def escapeText (c : Char) (more : List Char) : String :=
  String.ofList ('\\' :: c :: more)

/-- A code point given by exactly `n` hexadecimal digits. -/
def hexEscape (start : Nat) (c : Char) (n : Nat) : Reader Nat := do
  let digits ← takeWhile (fun d => (hexDigit? d).isSome) n
  if digits.length < n then failAt (.incompleteEscape (escapeText c digits)) start
  let code := digitsValue 16 digits
  if code > 0x10FFFF then failAt (.badEscape (escapeText c digits)) start
  return code

/-- A code point given by the name of a character. -/
def namedEscape (start : Nat) : Reader Nat := do
  if !(← accept '\x7b') then failHere .missingBrace
  let name ← takeName '\x7d' "character name"
  match Text.charNamed? name with
  | some code => return code
  | none => failAt (.undefinedCharacterName (String.ofList name)) start

/-- An octal code point; it must fit in eight bits. -/
def octalCode (start : Nat) (digits : List Char) : Reader Nat := do
  let code := digitsValue 8 digits
  if code > 0o377 then failAt (.octalOutOfRange (String.ofList ('\\' :: digits))) start
  return code

/-- The letters that name one character. -/
def namedControl? : Char → Option Nat
  | 'a' => some 7
  | 'b' => some 8
  | 'f' => some 12
  | 'n' => some 10
  | 'r' => some 13
  | 't' => some 9
  | 'v' => some 11
  | '\\' => some 92
  | _ => none

/-- The letters that name a class. -/
def namedCategory? : Char → Option (Category × Bool)
  | 'd' => some (.digit, false)
  | 'D' => some (.digit, true)
  | 's' => some (.space, false)
  | 'S' => some (.space, true)
  | 'w' => some (.word, false)
  | 'W' => some (.word, true)
  | _ => none

/-- The letters that name a place. -/
def namedAnchor? : Char → Option Anchor
  | 'A' => some .textStart
  | 'b' => some .boundary
  | 'B' => some .noBoundary
  | 'Z' => some .textEnd
  | _ => none

/-- An escape that means the same inside a character set and outside, if the character starts one.
-/
def commonEscape (start : Nat) (c : Char) : Reader (Option Nat) :=
  match c with
  | 'x' => some <$> hexEscape start c 2
  | 'u' => some <$> hexEscape start c 4
  | 'U' => some <$> hexEscape start c 8
  | 'N' => some <$> namedEscape start
  | _ => return none

/-- An escape that stands for its own character; letters and digits do not. -/
def plainEscape (start : Nat) (c : Char) : Reader Escape :=
  if isLetter c || isDecimal c then failAt (.badEscape (escapeText c [])) start
  else return .char c.toNat

/-- An escape inside a character set, read behind its two characters, the first of them at `start`.
-/
def setEscape (start : Nat) (c : Char) : Reader Escape := do
  if let some code := namedControl? c then return .char code
  if let some (class_, negated) := namedCategory? c then return .category class_ negated
  if let some code ← commonEscape start c then return .char code
  if isOctal c then
    return .char (← octalCode start (c :: (← takeWhile isOctal 2)))
  plainEscape start c

/-- Refuses a group from inside the look-behind that defines it, or while it is open. -/
def checkLookbehindGroup (group : Nat) : Reader Unit := do
  let r ← get
  match r.lookbehindGroups with
  | none => return
  | some limit =>
    if (r.groups.getD group none).isNone then failHere .openGroupReference
    if group ≥ limit then failHere .lookbehindGroupReference

def groupReference (start : Nat) (digits : List Char) : Reader Escape := do
  let group := digitsValue 10 digits
  let r ← get
  if group < r.groups.length then
    if (r.groups.getD group none).isNone then failAt .openGroupReference start
    checkLookbehindGroup group
    return .reference group
  failAt (.invalidGroupReference group) (start + 1)

/-- An escape with a digit other than zero: three octal digits are a code point, fewer name a group.
-/
def numericEscape (start : Nat) (c : Char) : Reader Escape := do
  match ← takeWhile isDecimal 1 with
  | [d] =>
    if isOctal c && isOctal d then
      match ← takeWhile isOctal 1 with
      | [e] => return .char (← octalCode start [c, d, e])
      | _ => groupReference start [c, d]
    else groupReference start [c, d]
  | _ => groupReference start [c]

/-- An escape outside character sets, read behind its two characters, the first of them at `start`.
-/
def itemEscape (start : Nat) (c : Char) : Reader Escape := do
  if let some (class_, negated) := namedCategory? c then return .category class_ negated
  if let some anchor := namedAnchor? c then return .anchor anchor
  if let some code := namedControl? c then return .char code
  if let some code ← commonEscape start c then return .char code
  if c = '0' then return .char (digitsValue 8 (← takeWhile isOctal 2))
  if isDecimal c then numericEscape start c
  else plainEscape start c

end Coffer.Pattern
