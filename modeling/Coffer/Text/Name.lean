import Coffer.Text.Name.Table
import Coffer.Text.Name.Words

/-!
Names of characters. Most of them are listed in a table. Those of ideographs end in the code point,
and those of Korean syllables spell the syllable.
-/

namespace Coffer.Text

/-! ### Listed names -/

/-- The value of a digit of the table. -/
def nameDigit (c : Char) : Nat :=
  if c.isDigit then c.toNat - 48 else if c.isUpper then c.toNat - 55 else c.toNat - 61

/-- The code point of the name that consists of the words of some numbers, looked up in the rest of
a table. `name` is the last name, as far as it has been read, and `next` the code point behind its
own. -/
def findName (target : List Nat) (next : Nat) (name : List Nat) : List Char → Option Nat
  | '.' :: a :: b :: c :: d :: e :: rest =>
    if name = target then some (next - 1)
    else findName target ([a, b, c, d, e].foldl (fun n x => n * 16 + nameDigit x) 0) name rest
  | a :: b :: rest =>
    let first := nameDigit a
    if first < 16 then
      if name = target then some (next - 1)
      else findName target (next + 1) (name.take first) (b :: rest)
    else if first < 36 then findName target next (name ++ [(first - 16) * 62 + nameDigit b]) rest
    else
      match rest with
      | [] => none
      | c :: rest =>
        let number := 20 * 62 + ((first - 36) * 62 + nameDigit b) * 62 + nameDigit c
        findName target next (name ++ [number]) rest
  | _ => if name = target then some (next - 1) else none

def listedName? (name : List Char) : Option Nat := do
  let words := ((nameWords.splitOn "\n").flatMap (·.splitOn " ")).toArray
  let numbers ← (name.splitOn ' ').mapM fun w => words.idxOf? (String.ofList w)
  findName numbers 0 [] (nameTable.toList.filter (· ≠ '\n'))

/-! ### Ideographs -/

/-- The code point that four or five hexadecimal digits with capital letters spell. -/
def hexCode? (cs : List Char) : Option Nat :=
  let isHex (c : Char) : Bool := c.isDigit || ('A' ≤ c && c ≤ 'F')
  if (cs.length = 4 ∨ cs.length = 5) ∧ cs.all isHex then
    some (cs.foldl (fun n c => n * 16 + nameDigit c) 0)
  else none

def inRanges (n : Nat) (ranges : List (Nat × Nat)) : Bool :=
  ranges.any fun (first, last) => first ≤ n && n ≤ last

/-- The ideographs of Chinese, Japanese and Korean. -/
def unifiedIdeographs : List (Nat × Nat) :=
  [(0x3400, 0x4DBF), (0x4E00, 0x9FFF), (0x20000, 0x2A6DF), (0x2A700, 0x2B738), (0x2B740, 0x2B81D),
    (0x2B820, 0x2CEA1), (0x2CEB0, 0x2EBE0), (0x30000, 0x3134A)]

/-- Other characters whose names end in the code point. -/
def numberedNames : List (List Char × List (Nat × Nat)) :=
  [("CJK COMPATIBILITY IDEOGRAPH-".toList,
      [(0xF900, 0xFA6D), (0xFA70, 0xFAD9), (0x2F800, 0x2FA1D)]),
    ("KHITAN SMALL SCRIPT CHARACTER-".toList, [(0x18B00, 0x18CD5)]),
    ("NUSHU CHARACTER-".toList, [(0x1B170, 0x1B2FB)])]

/-- The code point of a name that ends in it. -/
def numberedName? (name : List Char) : Option Nat :=
  numberedNames.findSome? fun (start, ranges) => do
    let digits ← start.isPrefixOf? name
    let code ← hexCode? digits
    if digits.head? = some '0' ∨ !inRanges code ranges then none
    return code

/-! ### Korean syllables -/

def leadSounds : List String :=
  ["G", "GG", "N", "D", "DD", "R", "M", "B", "BB", "S", "SS", "", "J", "JJ", "C", "K", "T", "P",
    "H"]

def vowelSounds : List String :=
  ["A", "AE", "YA", "YAE", "EO", "E", "YEO", "YE", "O", "WA", "WAE", "OE", "YO", "U", "WEO", "WE",
    "WI", "YU", "EU", "YI", "I"]

def tailSounds : List String :=
  ["", "G", "GG", "GS", "N", "NJ", "NH", "D", "L", "LG", "LM", "LB", "LS", "LT", "LP", "LH", "M",
    "B", "BS", "S", "SS", "NG", "J", "C", "K", "T", "P", "H"]

/-- The longest of some sounds that a text starts with, by its index, and what is left. -/
def takeSound (sounds : List String) (cs : List Char) : Option (Nat × List Char) :=
  let fitting := (sounds.zipIdx).filter fun (s, _) => s.toList.isPrefixOf cs
  let longest := fitting.foldl (fun best (s, i) =>
    match best with
    | some (t, _) => if s.length > t.length then some (s, i) else best
    | none => some (s, i)) (none : Option (String × Nat))
  longest.map fun (s, i) => (i, cs.drop s.length)

def syllable? (cs : List Char) : Option Nat := do
  let (lead, cs) ← takeSound leadSounds cs
  let (vowel, cs) ← takeSound vowelSounds cs
  let (tail, cs) ← takeSound tailSounds cs
  if !cs.isEmpty then none
  return 0xAC00 + (lead * vowelSounds.length + vowel) * tailSounds.length + tail

/-! ### All names -/

/-- The code point of the character with a name. Listed names may be written in any letter case, and
so may those that end in the code point of an ideograph of lesser use. -/
def charNamed? (name : List Char) : Option Nat :=
  if let some sounds := "HANGUL SYLLABLE ".toList.isPrefixOf? name then syllable? sounds
  else if let some digits := "CJK UNIFIED IDEOGRAPH-".toList.isPrefixOf? name then
    (hexCode? digits).filter (inRanges · unifiedIdeographs)
  else
    let name := name.map Char.toUpper
    (numberedName? name).or (listedName? name)

end Coffer.Text
