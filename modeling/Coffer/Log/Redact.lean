import Coffer.Text.Blank
import Coffer.Text.Case
import Coffer.Text.Word

/-!
Hiding passwords in notes. An assignment is one of five words in any letter case, not in the middle
of a longer word on its left, then `=` or `:`, and then a value: a quoted text, or a run of
characters up to the next blank. Blanks may stand around the sign. The value of every assignment is
replaced.
-/

namespace Coffer.Redact

open Text (isBlank isWord)

def words : List (List Char) :=
  ["password".toList, "passwd".toList, "pass".toList, "pwd".toList, "secret".toList]

/-- What stands in place of a value. -/
def replacement : List Char :=
  "=[REDACTED]".toList

/-- Whether a character is a letter of one of the words, in either case; a long s is an s. -/
def isLetter (letter c : Char) : Bool :=
  Text.lowerCode c.toNat == letter.toNat || (letter == 's' && c.toNat == 0x17F)

def afterWord : List Char → List Char → Option (List Char)
  | [], cs => some cs
  | _ :: _, [] => none
  | letter :: word, c :: cs => if isLetter letter c then afterWord word cs else none

/-- A text in quotes of one kind at the start of a text: its last character, and what is left. -/
def quotedValue? (quote : Char) : List Char → Option (Char × List Char)
  | [] => none
  | c :: cs =>
    if c = quote then
      match cs.dropWhile (· != quote) with
      | [] => none
      | last :: rest => some (last, rest)
    else none

/-- A run of characters that are not blank: its last character, and what is left. -/
def bareValue? (cs : List Char) : Option (Char × List Char) :=
  match (cs.takeWhile fun c => !isBlank c).getLast? with
  | none => none
  | some last => some (last, cs.dropWhile fun c => !isBlank c)

/-- A value at the start of a text: its last character, and what is left. -/
def value? (cs : List Char) : Option (Char × List Char) :=
  (quotedValue? '"' cs).or ((quotedValue? '\'' cs).or (bareValue? cs))

def afterSign : List Char → Option (List Char)
  | [] => none
  | c :: cs => if c = '=' ∨ c = ':' then some cs else none

/-- An assignment at the start of a text: the word as it stands there, the last character of the
value, and what is left of the text. -/
structure Assignment where
  word : List Char
  last : Char
  rest : List Char
deriving DecidableEq, Repr

/-- The assignment with the given word at the start of a text. -/
def assignmentOf (word cs : List Char) : Option Assignment := do
  let behind ← afterWord word cs
  let behindSign ← afterSign (behind.dropWhile isBlank)
  let (last, rest) ← value? (behindSign.dropWhile isBlank)
  return ⟨cs.take word.length, last, rest⟩

def assignment? (cs : List Char) : Option Assignment :=
  words.findSome? (assignmentOf · cs)

theorem length_of_afterWord {word cs rest : List Char} (h : afterWord word cs = some rest) :
    rest.length ≤ cs.length := by
  fun_induction afterWord word cs with
  | case1 => cases h; exact Nat.le_refl _
  | case2 => cases h
  | case3 _ _ _ _ _ ih => exact Nat.le_succ_of_le (ih h)
  | case4 => cases h

theorem length_of_quotedValue {q last : Char} {cs rest : List Char}
    (h : quotedValue? q cs = some (last, rest)) : rest.length ≤ cs.length := by
  unfold quotedValue? at h
  split at h
  · cases h
  · next c cs =>
    split at h
    · split at h
      · cases h
      · next hd =>
        cases h
        have := (List.dropWhile_sublist (l := cs) (· != q)).length_le
        rw [hd] at this
        simp only [List.length_cons] at this ⊢
        omega
    · cases h

theorem length_of_value {last : Char} {cs rest : List Char} (h : value? cs = some (last, rest)) :
    rest.length ≤ cs.length := by
  simp only [value?, Option.or_eq_some_iff] at h
  rcases h with h | ⟨-, h | ⟨-, h⟩⟩
  · exact length_of_quotedValue h
  · exact length_of_quotedValue h
  · unfold bareValue? at h
    split at h
    · cases h
    · cases h; exact (List.dropWhile_sublist _).length_le

theorem length_of_afterSign {cs rest : List Char} (h : afterSign cs = some rest) :
    rest.length < cs.length := by
  unfold afterSign at h
  split at h
  · cases h
  · split at h
    · cases h; simp
    · cases h

theorem length_of_assignment {cs : List Char} {a : Assignment} (h : assignment? cs = some a) :
    a.rest.length < cs.length := by
  obtain ⟨word, -, h⟩ := List.exists_of_findSome?_eq_some h
  simp only [assignmentOf, Option.bind_eq_bind, Option.bind_eq_some_iff, Option.pure_def,
    Option.some.injEq] at h
  obtain ⟨behind, hw, behindSign, hs, ⟨last, rest⟩, hv, rfl⟩ := h
  have h1 := length_of_afterWord hw
  have h2 := length_of_afterSign hs
  have h3 := length_of_value hv
  have h4 := (List.dropWhile_sublist (l := behind) isBlank).length_le
  have h5 := (List.dropWhile_sublist (l := behindSign) isBlank).length_le
  show rest.length < cs.length
  omega

/-- The text with the values of its assignments replaced, the first of them first. `inWord` tells
whether a word has begun before the text. -/
def redactFrom (inWord : Bool) (cs : List Char) : List Char :=
  match cs with
  | [] => []
  | c :: rest =>
    if inWord then c :: redactFrom (isWord c) rest
    else
      match h : assignment? (c :: rest) with
      | none => c :: redactFrom (isWord c) rest
      | some a =>
        have := length_of_assignment h
        a.word ++ replacement ++ redactFrom (isWord a.last) a.rest
termination_by cs.length
decreasing_by
  · simp
  · simp
  · exact this

end Coffer.Redact

namespace Coffer

/-- A text with the values of its password assignments replaced. -/
def redact (s : String) : String :=
  String.ofList (Redact.redactFrom false s.toList)

end Coffer
