import Coffer.Time.Calendar

/-!
Moments as the vault records them: the time on a wall clock, with the clock's distance from
universal time when it is known. Their written form is the one of ISO 8601, and some other forms of
it can be read too.
-/

namespace Coffer

/-- A reading of a wall clock in microseconds from the start of 1970, and how many microseconds the
clock is ahead of universal time, if that is known. -/
structure Timestamp where
  wall : Int
  offset : Option Int
deriving DecidableEq, Repr

namespace Timestamp

def microsPerSecond : Int := 1000000

def microsPerDay : Int := 86400000000

/-- The moment at which a clock that shows universal time reads `micros`. -/
def utc (micros : Int) : Timestamp :=
  ⟨micros, some 0⟩

/-- The moment on the scale of universal time; a clock of unknown offset is taken to show it. -/
def instant (t : Timestamp) : Int :=
  t.wall - t.offset.getD 0

/-- The wall clock at the start of a day. -/
def ofDate (d : Date) : Int :=
  d.number * microsPerDay

def twoDigits (n : Nat) : List Char :=
  [Char.ofNat (48 + n / 10 % 10), Char.ofNat (48 + n % 10)]

/-- A number below ten thousand in four digits. -/
def fourDigits (n : Nat) : List Char :=
  twoDigits (n / 100) ++ twoDigits (n % 100)

/-- A number below a million in six digits. -/
def sixDigits (n : Nat) : List Char :=
  twoDigits (n / 10000) ++ twoDigits (n / 100 % 100) ++ twoDigits (n % 100)

/-- Hours, minutes and seconds of a number of seconds below a day, with colons between them. -/
def clockText (seconds : Nat) : List Char :=
  twoDigits (seconds / 3600) ++ ':' :: twoDigits (seconds / 60 % 60) ++
    ':' :: twoDigits (seconds % 60)

/-- The distance from universal time: sign, hours and minutes, then seconds and microseconds as far
as there are any. -/
def offsetText (offset : Int) : List Char :=
  let micros := offset.natAbs
  let seconds := micros / 1000000
  let part := micros % 1000000
  (if offset < 0 then '-' else '+') ::
    (if part ≠ 0 then clockText seconds ++ '.' :: sixDigits part
    else if seconds % 60 ≠ 0 then clockText seconds
    else (clockText seconds).take 5)

/-- The written form: date and time with a `T` between them, microseconds if there are any, and the
distance from universal time if it is known. -/
def text (t : Timestamp) : List Char :=
  let d := Date.ofNumber (t.wall / microsPerDay)
  let micros := (t.wall % microsPerDay).toNat
  let part := micros % 1000000
  fourDigits d.year.toNat ++ '-' :: twoDigits d.month ++ '-' :: twoDigits d.day ++
    'T' :: clockText (micros / 1000000) ++
    (if part = 0 then [] else '.' :: sixDigits part) ++
    (t.offset.map offsetText).getD []

/-! ### Reading -/

def digit? (c : Char) : Option Nat :=
  if '0' ≤ c ∧ c ≤ '9' then some (c.toNat - 48) else none

/-- A number of exactly `n` digits at the start of a text, and what follows. -/
def number? : Nat → List Char → Option (Nat × List Char)
  | n, cs =>
    let digits := cs.take n
    if digits.length < n then none
    else do
      let ds ← digits.mapM digit?
      return (ds.foldl (fun v d => v * 10 + d) 0, cs.drop n)

/-- How much of a text is the date. Behind it stands one character, and then the time. -/
def dateLength (cs : List Char) : Option Nat :=
  let isDigitAt (i : Nat) : Bool := ((cs[i]?).bind digit?).isSome
  if cs.length = 7 then some 7
  else if cs[4]? = some '-' then
    if cs[5]? = some 'W' then
      if cs[8]? = some '-' then
        if cs.length = 9 then none else if isDigitAt 10 then some 8 else some 10
      else some 8
    else some 10
  else if cs[4]? = some 'W' then
    let end_ := 7 + ((cs.drop 7).takeWhile fun c => (digit? c).isSome).length
    if end_ < 9 then some end_ else if end_ % 2 = 0 then some 7 else some 8
  else some 8

/-- The date that a text of the given length spells, with dashes between its parts or without. -/
def date? (cs : List Char) (length : Nat) : Option Date := do
  let (year, rest) ← number? 4 cs
  let dashed := rest.head? = some '-'
  let rest := if dashed then rest.drop 1 else rest
  let skipDash (rest : List Char) : Option (List Char) :=
    if !dashed then some rest else if rest.head? = some '-' then some (rest.drop 1) else none
  if rest.head? = some 'W' then
    let (week, rest) ← number? 2 (rest.drop 1)
    if cs.length - rest.length < length then
      let (day, _) ← number? 1 (← skipDash rest)
      Date.ofWeek? year week day
    else Date.ofWeek? year week 1
  else
    let (month, rest) ← number? 2 rest
    let (day, _) ← number? 2 (← skipDash rest)
    return ⟨year, month, day⟩

/-- A time of day as read, whose parts may still be out of range. -/
structure Clock where
  hour : Nat := 0
  minute : Nat := 0
  second : Nat := 0
  micros : Nat := 0

/-- Whether anything is left in what follows a part that has been read. A null character ends the
text, and `more` tells whether other text follows this one. -/
def isLeft (more : Bool) (rest : List Char) : Bool :=
  match rest with
  | [] => more
  | c :: _ => c != '\x00'

/-- Up to six digits as microseconds; further digits are skipped. Also tells whether anything is
left. -/
def fraction? (more : Bool) (cs : List Char) : Option (Nat × Bool) := do
  let taken := Nat.min 6 cs.length
  let (n, rest) ← number? taken cs
  return (n * Nat.pow 10 (6 - taken), isLeft more (rest.dropWhile fun c => (digit? c).isSome))

/-- Reads hours, minutes, seconds and a fraction, as far as they are there, with colons between the
first three or without. `parts` are those read so far and `colons` tells whether there are colons;
`more` tells whether other text follows this one. Also tells whether anything is left behind the
last part read, which may be one ASCII character. -/
def clockParts (more : Bool) : Nat → Bool → List Nat → List Char → Option (List Nat × Bool)
  | 0, _, parts, cs => do
    let (micros, left) ← fraction? more cs
    return (parts ++ [micros], left)
  | n + 1, colons, parts, cs => do
    let (value, rest) ← number? 2 cs
    let parts := parts ++ [value]
    match rest with
    | [] => return (parts, more)
    | [c] => if c.toNat < 0x80 then return (parts, isLeft more rest) else none
    | c :: rest' =>
      let colons := if parts.length = 1 then c == ':' else colons
      if colons && c == ':' then clockParts more n colons parts rest'
      else if c == '.' || c == ',' then
        let (micros, left) ← fraction? more rest'
        return (parts ++ List.replicate (3 - parts.length) 0 ++ [micros], left)
      else if !colons then clockParts more n colons parts rest
      else none

/-- A time of day, and whether anything is left behind it. -/
def clock? (more : Bool) (cs : List Char) : Option (Clock × Bool) := do
  let (parts, left) ← clockParts more 3 true [] cs
  return (⟨parts.getD 0 0, parts.getD 1 0, parts.getD 2 0, parts.getD 3 0⟩, left)

def startsOffset (c : Char) : Bool :=
  c == '+' || c == '-' || c == 'Z'

/-- The distance from universal time, below a day either way. Less than a second is taken for none.
-/
def offset? (cs : List Char) : Option Int :=
  match cs with
  | 'Z' :: rest => if isLeft false rest then none else some 0
  | sign :: rest => do
    let (c, left) ← clock? false rest
    if left then none
    let seconds : Int := c.hour * 3600 + c.minute * 60 + c.second
    let micros := if seconds = 0 then 0 else seconds * microsPerSecond + c.micros
    if micros ≥ microsPerDay then none
    return if sign = '-' then -micros else micros
  | [] => none

/-- The time of day in microseconds, and the distance from universal time. -/
def time? (cs : List Char) : Option (Int × Option Int) := do
  let zone := cs.dropWhile fun c => !startsOffset c
  let (c, left) ← clock? (!zone.isEmpty) (cs.takeWhile fun c => !startsOffset c)
  if zone.isEmpty && left then none
  let offset ← if zone.isEmpty then some none else (offset? zone).map some
  if c.hour > 23 ∨ c.minute > 59 ∨ c.second > 59 then none
  return (((c.hour * 60 + c.minute) * 60 + c.second) * microsPerSecond + c.micros, offset)

/-- The moment that a text spells. A date alone is its first moment. -/
def ofText? (cs : List Char) : Option Timestamp := do
  if cs.length < 7 then none
  let length ← dateLength cs
  let d ← date? cs length
  let (micros, offset) ← if cs.length ≤ length then some (0, none) else time? (cs.drop (length + 1))
  if !d.isValid then none
  return ⟨ofDate d + micros, offset⟩

/-- The moments that timestamps can name, on any clock: the years 1 to 9999. -/
def firstMicros : Int := ofDate ⟨1, 1, 1⟩

/-- The end of the moments that timestamps can name. -/
def lastMicros : Int := ofDate ⟨10000, 1, 1⟩

/-- The form in which listings show a moment, on the scale of universal time. -/
def stamp (instant : Int) : List Char :=
  let d := Date.ofNumber (instant / microsPerDay)
  let seconds := (instant % microsPerDay).toNat / 1000000
  (toString d.year).toList ++ '/' :: twoDigits d.month ++ '/' :: twoDigits d.day ++
    ' ' :: clockText seconds

end Timestamp

end Coffer
