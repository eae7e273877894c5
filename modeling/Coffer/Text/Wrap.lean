import Coffer.Text.Blank
import Coffer.Text.Digit
import Coffer.Text.Word

/-!
Breaking a text into lines of limited width: at blanks, behind hyphens between letters, around
dashes made of several hyphens, and anywhere in what is wider than a line.
-/

namespace Coffer.Text

/-! ### Units -/

/-- What may stand beside a hyphen that is broken behind: a letter, or what is like one. -/
def isHyphenated (c : Char) : Bool :=
  isWord c && !isDigit c

/-- What may stand before a dash: whatever words and their punctuation are made of. -/
def isBeforeDash (c : Char) : Bool :=
  isWord c || c ∈ ['!', '"', '\'', '&', '.', ',', '?']

/-- Whether a text may be broken behind a hyphen, from what stands before it, last character first,
and behind it. -/
def breaksBehindHyphen (before after : List Char) : Bool :=
  (match before with
    | a :: '-' :: b :: _ => isHyphenated a && isHyphenated b
    | a :: b :: _ => isHyphenated a && isHyphenated b
    | _ => false) &&
  match after with
    | a :: '-' :: b :: _ => isHyphenated a && isHyphenated b
    | a :: b :: _ => isHyphenated a && isHyphenated b
    | _ => false

/-- Whether a dash starts here: at least two hyphens between words. -/
def startsDash (before after : List Char) : Bool :=
  before.head?.any isBeforeDash && 2 ≤ (after.takeWhile (· == '-')).length &&
    (after.dropWhile (· == '-')).head?.any isWord

/-- The pieces of a word: up to each hyphen that may be broken behind, up to each dash, and the
dashes. `piece` is the one being read, last character first, and `before` all that has been read. -/
def pieces (isDash : Bool) (before piece : List Char) : List Char → List (List Char)
  | [] => if piece.isEmpty then [] else [piece.reverse]
  | c :: cs =>
    if isDash then
      if c = '-' then pieces true (c :: before) (c :: piece) cs
      else piece.reverse :: pieces false (c :: before) [c] cs
    else if startsDash before (c :: cs) then
      (if piece.isEmpty then [] else [piece.reverse]) ++ pieces true (c :: before) [c] cs
    else if c = '-' ∧ !piece.isEmpty ∧ breaksBehindHyphen before cs then
      (c :: piece).reverse :: pieces false (c :: before) [] cs
    else pieces false (c :: before) (c :: piece) cs

def isAsciiBlank (c : Char) : Bool :=
  c = ' ' || ('\t' ≤ c && c ≤ '\r')

/-- The words of a text and the single blanks between them, words cut into pieces. -/
def wrapUnits (cs : List Char) : List (List Char) :=
  let cs := cs.map fun c => if isAsciiBlank c then ' ' else c
  let words := (cs.splitOn ' ').filter (!·.isEmpty)
  (words.map (pieces false [] [])).intersperse [[' ']] |>.flatten

/-! ### Lines -/

/-- The units that fit into a line, and those that are left. -/
def takeFitting (room : Nat) : List (List Char) → List (List Char) × List (List Char)
  | [] => ([], [])
  | u :: us =>
    if u.length ≤ room then
      let (line, rest) := takeFitting (room - u.length) us
      (u :: line, rest)
    else ([], u :: us)

/-- How much of a unit that is wider than a line goes into what is left of one: up to the last
hyphen, if something else stands before it. -/
def cutWidth (room : Nat) (u : List Char) : Nat :=
  let head := u.take room
  let kept := (head.reverse.dropWhile (· != '-')).length
  if 1 < kept ∧ (head.take (kept - 1)).any (· != '-') then kept else room

def dropBlankLast (us : List (List Char)) : List (List Char) :=
  if us.getLast?.any (·.all isBlank) then us.dropLast else us

/-- Fills lines with units; the budget bounds their number. -/
def fillLines (width : Nat) : Nat → List (List Char) → List (List Char)
  | 0, _ => []
  | _, [] => []
  | budget + 1, us =>
    let (line, rest) := takeFitting width us
    let room := width - line.flatten.length
    let (line, rest) := match rest with
      | u :: rest =>
        if u.length > width then
          (line ++ [u.take (cutWidth room u)], u.drop (cutWidth room u) :: rest)
        else (line, u :: rest)
      | [] => (line, [])
    let line := dropBlankLast line
    let rest := if rest.head?.any (·.all isBlank) then rest.drop 1 else rest
    (if line.isEmpty then [] else [line.flatten]) ++ fillLines width budget rest

/-- The lines of a text, none wider than `width`. -/
def wrap (width : Nat) (cs : List Char) : List (List Char) :=
  fillLines width (cs.length + 1) (wrapUnits cs)

end Coffer.Text
