import Coffer.Pattern.Syntax

/-!
The symbols of a pattern and the state of reading them. A backslash and the character behind it are
one symbol; a backslash at the very end is an error as soon as reading gets to it.
-/

namespace Coffer.Pattern

/-- A character of the pattern, alone or behind a backslash. -/
inductive Symbol where
  | plain (c : Char)
  | escaped (c : Char)
deriving DecidableEq, Repr

def Symbol.chars : Symbol → List Char
  | .plain c => [c]
  | .escaped c => ['\\', c]

def Symbol.text (s : Symbol) : String :=
  String.ofList s.chars

def Symbol.length (s : Symbol) : Nat :=
  s.chars.length

/-- The symbols of a text, and whether a lone backslash is left at its end. -/
def symbols : List Char → List Symbol × Bool
  | [] => ([], false)
  | ['\\'] => ([], true)
  | '\\' :: c :: rest =>
    let (ss, b) := symbols rest
    (.escaped c :: ss, b)
  | c :: rest =>
    let (ss, b) := symbols rest
    (.plain c :: ss, b)

/-- What is known while a pattern is being read: the symbols left and the offset of the first of
them, whether a lone backslash follows them, the flags set for the whole pattern, the width of every
group (none while the group is open), the names of groups, the number of groups there were when the
outermost look-behind started, and the groups that conditions name by number with the offset of the
first mention. -/
structure Reading where
  rest : List Symbol
  offset : Nat
  dangling : Bool
  flags : Flags := {}
  groups : List (Option Width) := [none]
  names : List (String × Nat) := []
  lookbehindGroups : Option Nat := none
  conditions : List (Nat × Nat) := []

abbrev Reader := StateT Reading (Except Error)

/-- Stops with a complaint about the given offset. -/
def failAt {α : Type} (problem : Problem) (position : Nat) : Reader α :=
  throw (.malformed problem (some position))

/-- Stops with a complaint about the place where reading is. -/
def failHere {α : Type} (problem : Problem) : Reader α := do
  failAt problem (← get).offset

/-- Stops with a complaint about a place `back` characters before the one where reading is. -/
def failBack {α : Type} (problem : Problem) (back : Nat) : Reader α := do
  failAt problem ((← get).offset - back)

def tell : Reader Nat :=
  return (← get).offset

/-- The next symbol, none at the end. -/
def peek : Reader (Option Symbol) :=
  return (← get).rest.head?

/-- Takes the next symbol, none at the end. -/
def take : Reader (Option Symbol) := do
  let r ← get
  match r.rest with
  | [] => return none
  | s :: rest =>
    let offset := r.offset + s.length
    if rest.isEmpty && r.dangling then failAt .escapeAtEnd offset
    set { r with rest, offset }
    return some s

/-- Takes the next symbol if it is the given character. -/
def accept (c : Char) : Reader Bool := do
  if (← peek) = some (.plain c) then
    let _ ← take
    return true
  else return false

/-- Takes up to `n` symbols that are characters of a class. -/
def takeWhile (p : Char → Bool) : Nat → Reader (List Char)
  | 0 => return []
  | n + 1 => do
    match ← peek with
    | some (.plain c) =>
      if p c then
        let _ ← take
        return c :: (← takeWhile p n)
      else return []
    | _ => return []

/-- Takes symbols up to a terminator, which is taken too. The name in between must not be empty; the
budget bounds its length. -/
def takeUntil (terminator : Char) (what : String) : Nat → List Char → Reader (List Char)
  | 0, name => return name
  | budget + 1, name => do
    match ← take with
    | none =>
      if name.isEmpty then failHere (.missingName what)
      else failBack (.unterminatedName (String.singleton terminator)) name.length
    | some s =>
      if s = .plain terminator then
        if name.isEmpty then failBack (.missingName what) 1 else return name
      else takeUntil terminator what budget (name ++ s.chars)

def takeName (terminator : Char) (what : String) : Reader (List Char) := do
  takeUntil terminator what ((← get).rest.length + 1) []

def Reading.start (pattern : List Char) : Except Error Reading :=
  let (rest, dangling) := symbols pattern
  if rest.isEmpty && dangling then .error (.malformed .escapeAtEnd (some 0))
  else .ok { rest, offset := 0, dangling }

end Coffer.Pattern
