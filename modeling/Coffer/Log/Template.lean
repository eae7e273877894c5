import Coffer.Json.Display
import Coffer.Number.Notation

/-!
Texts with gaps. A gap is a percent sign with a letter that says how its argument is written, and
between them marks for sign and padding, a width and a precision. Arguments fill the gaps in order,
or by name if there is a single object of them.
-/

namespace Coffer.Template

structure Gap where
  leftAligned : Bool := false
  zeroPadded : Bool := false
  signed : Bool := false
  blankSigned : Bool := false
  alt : Bool := false
  width : Nat := 0
  precision : Option Nat := none
  letter : Char

inductive Error where
  /-- A gap is cut short, or its letter means nothing. -/
  | malformed
  /-- There is no argument of that name. -/
  | missing (name : String)
  /-- There are too few arguments or too many, or one is of the wrong sort. -/
  | unfit
deriving DecidableEq, Repr

/-- What gaps are filled with: values in order, and the members of an object by name, if there are
any. -/
structure Supply where
  members : Option (List (String × Json)) := none
  values : List Json

/-- What some arguments supply. A single object with members supplies these, and itself once. -/
def Supply.ofArgs : List Json → Supply
  | [.obj members] => ⟨if members.isEmpty then none else some members, [.obj members]⟩
  | args => ⟨none, args⟩

def Supply.next : Supply → Except Error (Json × Supply)
  | ⟨members, v :: values⟩ => .ok (v, ⟨members, values⟩)
  | ⟨_, []⟩ => .error .unfit

/-- Makes a member the next value, and the only one. -/
def Supply.select (s : Supply) (name : String) : Except Error Supply :=
  match s.members with
  | none => .error .unfit
  | some members =>
    match members.lookup name with
    | none => .error (.missing name)
    | some v => .ok { s with values := [v] }

/-! ### Reading gaps -/

/-- The number that the digits at the start of a text make, and what is left. -/
def digits (cs : List Char) : Nat × List Char :=
  ((cs.takeWhile fun c => '0' ≤ c && c ≤ '9').foldl (fun n c => n * 10 + (c.toNat - 48)) 0,
    cs.dropWhile fun c => '0' ≤ c && c ≤ '9')

/-- Reads a name in brackets behind the opening one; brackets in it are in pairs. -/
def gapName : Nat → List Char → Option (List Char × List Char)
  | _, [] => none
  | 0, ')' :: cs => some ([], cs)
  | depth + 1, ')' :: cs => (gapName depth cs).map fun (name, rest) => (')' :: name, rest)
  | depth, '(' :: cs => (gapName (depth + 1) cs).map fun (name, rest) => ('(' :: name, rest)
  | depth, c :: cs => (gapName depth cs).map fun (name, rest) => (c :: name, rest)

def marks : Gap → List Char → Gap × List Char
  | g, '-' :: cs => marks { g with leftAligned := true } cs
  | g, '0' :: cs => marks { g with zeroPadded := true } cs
  | g, '+' :: cs => marks { g with signed := true } cs
  | g, ' ' :: cs => marks { g with blankSigned := true } cs
  | g, '#' :: cs => marks { g with alt := true } cs
  | g, cs => (g, cs)

/-- Reads a number; a star stands for the next value. -/
def amount (s : Supply) : List Char → Except Error (Int × Supply × List Char)
  | '*' :: cs => do
    let (v, s) ← s.next
    match v with
    | .int n => return (n, s, cs)
    | .bool b => return (if b then 1 else 0, s, cs)
    | _ => throw .unfit
  | cs =>
    let (n, cs) := digits cs
    return (n, s, cs)

def readGap (s : Supply) (cs : List Char) : Except Error (Gap × Supply × List Char) := do
  let (s, cs) ← match cs with
    | '(' :: rest =>
      if s.members.isNone then throw .unfit
      match gapName 0 rest with
      | none => throw .malformed
      | some (name, cs) => pure (← s.select (String.ofList name), cs)
    | cs => pure (s, cs)
  let (g, cs) := marks { letter := '%' } cs
  let (width, s, cs) ← amount s cs
  let (precision, s, cs) ← match cs with
    | '.' :: rest => do
      let (p, s, cs) ← amount s rest
      pure (some p.toNat, s, cs)
    | cs => pure (none, s, cs)
  let cs := match cs with
    | c :: rest => if c = 'h' ∨ c = 'l' ∨ c = 'L' then rest else c :: rest
    | [] => []
  match cs with
  | [] => throw .malformed
  | letter :: rest =>
    return ({ g with
      leftAligned := g.leftAligned || width < 0
      width := width.natAbs
      precision
      letter }, s, rest)

/-! ### Filling gaps -/

/-- A text in a field of the gap's width. -/
def aligned (g : Gap) (cs : List Char) : List Char :=
  let fill := List.replicate (g.width - cs.length) ' '
  if g.leftAligned then cs ++ fill else fill ++ cs

def sign (g : Gap) (negative : Bool) : List Char :=
  if negative then ['-'] else if g.signed then ['+'] else if g.blankSigned then [' '] else []

/-- A number in a field of the gap's width; zeros go behind its sign and mark. -/
def alignedNumber (g : Gap) (start digits : List Char) : List Char :=
  if g.zeroPadded ∧ !g.leftAligned then
    start ++ List.replicate (g.width - start.length - digits.length) '0' ++ digits
  else aligned g (start ++ digits)

def digitsIn (base n : Nat) : List Char :=
  Nat.toDigits base n

def upperAscii (cs : List Char) : List Char :=
  cs.map Char.toUpper

def integer (g : Gap) (base : Nat) (mark : List Char) (n : Int) : List Char :=
  let ds := digitsIn base n.natAbs
  let ds := List.replicate ((g.precision.getD 0) - ds.length) '0' ++ ds
  alignedNumber g (sign g (n < 0) ++ (if g.alt then mark else [])) ds

def float (g : Gap) (x : Binary64) : List Char :=
  let places := g.precision.getD 6
  match x with
  | .nan => alignedNumber { g with zeroPadded := false } (sign g false) "nan".toList
  | .infinite negative =>
    alignedNumber { g with zeroPadded := false } (sign g negative) "inf".toList
  | .finite negative significand exponent =>
    let (num, den) := Binary64.fraction significand exponent
    let ds := match g.letter.toLower with
      | 'f' => Binary64.fixed g.alt places num den
      | 'e' => Binary64.scientific g.alt 'e' places num den
      | _ => Binary64.general g.alt 'e' places num den
    alignedNumber g (sign g negative) ds

/-- An integer from an argument; a floating-point number loses its fraction if that is allowed. -/
def integerOf (truncate : Bool) : Json → Option Int
  | .int n => some n
  | .bool b => some (if b then 1 else 0)
  | .float (.finite negative significand exponent) =>
    if truncate then
      let (num, den) := Binary64.fraction significand exponent
      some (if negative then -(num / den : Nat) else (num / den : Nat))
    else none
  | _ => none

def floatOf : Json → Option Binary64
  | .float x => some x
  | .int n => some (.ofDecimal (n < 0) n.natAbs 0)
  | .bool b => some (.ofDecimal false (if b then 1 else 0) 0)
  | _ => none

def asciiChar (c : Char) : List Char :=
  let n := c.toNat
  if n < 0x80 then [c]
  else if n < 0x100 then '\\' :: 'x' :: Text.hexPadded 2 n
  else if n < 0x10000 then '\\' :: 'u' :: Text.hexPadded 4 n
  else '\\' :: 'U' :: Text.hexPadded 8 n

/-- A text cut to the gap's precision. -/
def cut (g : Gap) (cs : List Char) : List Char :=
  match g.precision with
  | some p => cs.take p
  | none => cs

/-- An argument written into a gap. -/
def write (g : Gap) (v : Json) : Except Error (List Char) :=
  let number {α : Type} (value : Option α) (text : α → List Char) : Except Error (List Char) :=
    match value with
    | some a => .ok (text a)
    | none => .error .unfit
  match g.letter with
  | 's' => .ok (aligned g (cut g v.display.toList))
  | 'r' => .ok (aligned g (cut g v.inner))
  | 'a' => .ok (aligned g (cut g (v.inner.flatMap asciiChar)))
  | 'd' | 'i' | 'u' => number (integerOf true v) (integer { g with alt := false } 10 [])
  | 'o' => number (integerOf false v) (integer g 8 "0o".toList)
  | 'x' => number (integerOf false v) (integer g 16 "0x".toList)
  | 'X' => number (integerOf false v) fun n => upperAscii (integer g 16 "0x".toList n)
  | 'e' | 'f' | 'g' => number (floatOf v) (float g)
  | 'E' | 'F' | 'G' => number (floatOf v) fun x => upperAscii (float g x)
  | 'c' =>
    match v with
    | .int n => if 0 ≤ n ∧ n < 0x110000 then .ok (aligned g [Char.ofNat n.toNat]) else .error .unfit
    | .str s => if s.length = 1 then .ok (aligned g s.toList) else .error .unfit
    | _ => .error .unfit
  | _ => .error .malformed

/-- Fills the gaps one after the other; the budget bounds the number of pieces. Values that are left
over are too many, unless members go by name. A percent sign in place of a letter stands for itself.
-/
def fillFrom : Nat → Supply → List Char → Except Error (List Char)
  | _, s, [] => if s.members.isSome || s.values.isEmpty then .ok [] else .error .unfit
  | 0, _, _ => .error .malformed
  | budget + 1, s, '%' :: cs => do
    let (g, s, rest) ← readGap s cs
    if g.letter = '%' then return '%' :: (← fillFrom budget s rest)
    let (v, s) ← s.next
    return (← write g v) ++ (← fillFrom budget s rest)
  | budget + 1, s, c :: cs => do return c :: (← fillFrom budget s cs)

/-- A text with its gaps filled. Without arguments it stands for itself. -/
def fill (template : String) (args : List Json) : Except Error String :=
  if args.isEmpty then .ok template
  else do return String.ofList (← fillFrom template.length (Supply.ofArgs args) template.toList)

end Coffer.Template
