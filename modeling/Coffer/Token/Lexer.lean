import Coffer.Text.Blank
import Coffer.Token

/-!
From text to tokens. White space separates tokens and is otherwise skipped; a literal runs from a
quote to the next quote of the same kind that no backslash precedes; everything else is a run of
characters up to the next blank, quote, parenthesis or `=`.
-/

namespace Coffer

inductive LexError.Cause where
  | unrecognised (c : Char)
  | unrecognisedInLiteral (c : Char)
  | unterminatedLiteral
deriving DecidableEq, Repr

structure LexError where
  cause : LexError.Cause
  position : Nat
deriving DecidableEq, Repr

/-- A complaint followed by the offset it is about. -/
def atPosition (message : String) (position : Nat) : String :=
  message ++ " (at position " ++ toString position ++ ")"

def LexError.Cause.message : LexError.Cause → String
  | .unrecognised c => "unrecognised character " ++ String.ofList (Text.quoted [c])
  | .unrecognisedInLiteral c =>
    "unrecognised character " ++ String.ofList (Text.quoted [c]) ++ " in string literal"
  | .unterminatedLiteral => "unterminated string literal"

def LexError.message (e : LexError) : String :=
  atPosition e.cause.message e.position

namespace Token

open Text (isBlank isPrintable)

/-- Either kind of quote opens a literal. -/
def isQuote (c : Char) : Bool :=
  c == '\'' || c == '"'

/-- Characters that are tokens wherever they stand outside a literal and a word. -/
def isSingle (c : Char) : Bool :=
  c == '(' || c == ')' || c == '=' || c == '$'

def endsWord (c : Char) : Bool :=
  c == '(' || c == ')' || c == '=' || isQuote c

/-- Characters that a word consists of, whether they can be shown or not. -/
def isWordChar (c : Char) : Bool :=
  !(isBlank c || endsWord c)

/-- The reserved words of the filter language. -/
def keywords : List String :=
  ["is", "contains", "matches", "and", "or"]

/-- A literal that was read: its text, the offset behind its closing quote and the input there. -/
structure Literal where
  text : List Char
  next : Nat
  rest : List Char

def Literal.cons (c : Char) (l : Literal) : Literal :=
  { l with text := c :: l.text }

/-- Reads a literal from behind its opening quote. A backslash takes a quote of the same kind or a
backslash behind it literally and otherwise stands for itself. -/
def literal (quote : Char) (start : Nat) : Nat → List Char → Except LexError Literal
  | _, [] => .error ⟨.unterminatedLiteral, start⟩
  | pos, c :: rest =>
    if c = '\\' then
      match rest with
      | [] => .error ⟨.unterminatedLiteral, start⟩
      | d :: rest' =>
        if d = quote ∨ d = '\\' then (literal quote start (pos + 2) rest').map (.cons d)
        else (literal quote start (pos + 1) (d :: rest')).map (.cons c)
    else if c = quote then .ok ⟨[], pos + 1, rest⟩
    else if isPrintable c || isBlank c then (literal quote start (pos + 1) rest).map (.cons c)
    else .error ⟨.unrecognisedInLiteral c, pos⟩

/-- The token that a word is: a keyword in any letter case, or an identifier. -/
def ofWord (word : List Char) (pos : Nat) : Token :=
  let lowered := String.ofList (Text.lowerWord word)
  if lowered ∈ keywords then ⟨.keyword, lowered, pos⟩ else ⟨.identifier, String.ofList word, pos⟩

/-- One step of the scan: the input is used up, cannot be split, or starts with a token. -/
inductive Step where
  | done (pos : Nat)
  | fail (e : LexError)
  | emit (t : Token) (pos : Nat) (rest : List Char)

/-- The offset and character of the first character that has no visible form. -/
def unprintable? (pos : Nat) : List Char → Option (Nat × Char)
  | [] => none
  | c :: rest => if isPrintable c then unprintable? (pos + 1) rest else some (pos, c)

def wordStep (pos : Nat) (input : List Char) : Step :=
  let word := input.takeWhile isWordChar
  match unprintable? pos word with
  | some (at_, c) => .fail ⟨.unrecognised c, at_⟩
  | none => .emit (ofWord word pos) (pos + word.length) (input.dropWhile isWordChar)

/-- The token at the start of an input that does not start with a blank. A lone dot, with no word
character behind it, is punctuation. -/
def step (pos : Nat) : List Char → Step
  | [] => .done pos
  | c :: rest =>
    if !isPrintable c then .fail ⟨.unrecognised c, pos⟩
    else if isQuote c then
      match literal c pos (pos + 1) rest with
      | .error e => .fail e
      | .ok l => .emit ⟨.literal, String.ofList l.text, pos⟩ l.next l.rest
    else if isSingle c then .emit ⟨.punctuation, String.singleton c, pos⟩ (pos + 1) rest
    else if c = '.' ∧ (rest.head?.all fun d => !isWordChar d) then
      .emit ⟨.punctuation, ".", pos⟩ (pos + 1) rest
    else wordStep pos (c :: rest)

private theorem map_eq_ok {α β ε : Type} {f : α → β} {x : Except ε α} {b : β}
    (h : x.map f = .ok b) : ∃ a, x = .ok a ∧ f a = b := by
  cases x with
  | error e => cases h
  | ok a => exact ⟨a, rfl, by cases h; rfl⟩

theorem length_of_literal {q : Char} {start pos : Nat} {input : List Char} {l : Literal}
    (h : literal q start pos input = .ok l) : l.rest.length < input.length := by
  fun_induction literal q start pos input generalizing l with
  | case1 | case2 | case7 => simp at h
  | case5 => cases h; simp
  | case3 _ _ _ _ ih | case4 _ _ _ _ ih | case6 _ _ _ _ _ _ ih =>
    obtain ⟨l', hl, rfl⟩ := map_eq_ok h
    have := ih hl
    simp only [Literal.cons, List.length_cons] at this ⊢
    omega

theorem length_of_step {pos pos' : Nat} {input rest : List Char} {t : Token}
    (h : step pos input = .emit t pos' rest) (hb : ∀ c ∈ input.head?, isBlank c = false) :
    rest.length < input.length := by
  cases input with
  | nil => simp [step] at h
  | cons c cs =>
    have hc : isBlank c = false := hb c rfl
    rw [step] at h
    split at h
    · cases h
    split at h
    · split at h
      · cases h
      · next hl => cases h; have := length_of_literal hl; simp; omega
    split at h
    · cases h; simp
    split at h
    · cases h; simp
    · rename_i _ hq hs _
      unfold wordStep at h
      dsimp only at h
      split at h
      · cases h
      · cases h
        have hw : isWordChar c = true := by
          simp only [isSingle, isQuote, Bool.or_eq_true, beq_iff_eq] at hq hs
          simp [isWordChar, endsWord, isQuote, hc]; grind
        rw [List.dropWhile_cons, if_pos hw]
        exact Nat.lt_succ_of_le (List.dropWhile_sublist _).length_le

/-- The tokens of a text from the given offset on, and what stopped the scan, if anything did. The
sentinel comes last, when the whole text could be read. -/
def scan (pos : Nat) (input : List Char) : List Token × Option LexError :=
  let blanks := input.takeWhile isBlank
  match h : step (pos + blanks.length) (input.dropWhile isBlank) with
  | .done pos' => ([stop pos'], none)
  | .fail e => ([], some e)
  | .emit t pos' rest =>
    have : rest.length < input.length := by
      refine Nat.lt_of_lt_of_le (length_of_step h ?_) (List.dropWhile_sublist _).length_le
      intro c hc
      have := List.head?_dropWhile_not isBlank input
      rw [Option.mem_def] at hc
      simpa [hc] using this
    let (ts, e) := scan pos' rest
    (t :: ts, e)
termination_by input.length

def tokenize (text : String) : Except LexError (List Token) :=
  match scan 0 text.toList with
  | (ts, none) => .ok ts
  | (_, some e) => .error e

end Token

end Coffer
