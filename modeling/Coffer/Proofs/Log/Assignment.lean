import Coffer.Log.Redact
import Coffer.Proofs.Cut
import Mathlib.Data.List.Forall2

/-!
The assignments in a text.

A `Passage` is an assignment as it stands in a text, cut into its parts, and `Passage.Stands` says
without the scanner what these must be: one of the words, a sign between blanks, and a value. A value
is a text between two quotes of one kind; where no such text begins it is a run of characters that
ends before a blank or with the text.

What is proved here: at a given place there is at most one passage (`Passage.Stands.unique`), and the
scanner finds it if there is one (`assignment?_eq_some_iff`, `assignment?_eq_none_iff`). Whether there
is one depends only on the word, the sign and one more character (`opens_iff`).
-/

namespace Coffer

/-! ### Letters -/

namespace Text

/-- A run that is found by bisection starts at or below the code point. -/
theorem CaseRuns.bisect_cases (t : CaseRuns) (n lo hi : Nat) : t.bisect n lo hi = lo ∨
    ∃ i, t.bisect n lo hi = i + 1 ∧ (t.runs.getD i default).first ≤ n := by
  fun_induction CaseRuns.bisect t n lo hi with
  | case1 lo hi h mid hmid ih =>
    rcases ih with ih | ih
    · exact .inr ⟨mid, ih, hmid⟩
    · exact .inr ih
  | case2 lo hi h mid hmid ih => exact ih
  | case3 lo hi h => exact .inl rfl

/-- A code point stays as it is, or lies in a run and is moved with it. -/
theorem CaseRuns.apply_cases (t : CaseRuns) (n : Nat) : t.apply n = n ∨ n = 0 ∨
    ∃ r ∈ t.runs.toList, r.first ≤ n ∧ n ≤ r.last ∧ t.apply n = (n + r.shift).toNat := by
  rw [CaseRuns.apply]
  rcases t.bisect_cases n 0 t.runs.size with hzero | ⟨i, hi, hfirst⟩
  · rw [hzero]
    exact .inl rfl
  · rw [hi]
    dsimp only
    split
    · next hr =>
      by_cases hsize : i < t.runs.size
      · have hget : t.runs.getD i default = t.runs[i] := by
          simp [Array.getD, hsize]
        rw [hget] at hfirst hr ⊢
        exact .inr (.inr ⟨t.runs[i], by simp, hfirst, hr.1, rfl⟩)
      · -- there is no such run, and the one taken instead holds no code point but 0
        have hget : t.runs.getD i default = default := by
          simp [Array.getD, hsize]
        rw [hget] at hr
        exact .inr (.inl (Nat.le_zero.mp hr.1))
    · exact .inl rfl

end Text

namespace Redact

open Text (isBlank isWord)

/-- Decides a property of the characters of a list by going through the list. -/
theorem forall_mem_of_all {cs : List Char} {P : Char → Prop} [DecidablePred P]
    (h : cs.all (fun c => decide (P c)) = true) : ∀ c ∈ cs, P c := by
  intro c hc
  exact of_decide_eq_true (List.all_eq_true.mp h c hc)

/-- A character is a letter in one of its forms. The long s is one of those of `s`. -/
def IsFormOf (letter c : Char) : Prop :=
  c = letter ∨ c = letter.toUpper ∨ letter = 's' ∧ c = 'ſ'

instance (letter c : Char) : Decidable (IsFormOf letter c) :=
  inferInstanceAs (Decidable (_ ∨ _))

/-- No character beyond ASCII has a letter of the words as its lower-case partner. -/
theorem lowerCode_ne {letter : Char} (hletter : letter ∈ words.flatten) {n : Nat} (hn : 0x80 ≤ n) :
    Text.lowerCode n ≠ letter.toNat := by
  have hascii : ∀ l ∈ words.flatten, 0 < l.toNat ∧ l.toNat < 0x80 :=
    forall_mem_of_all (by decide)
  have hruns : ∀ l ∈ words.flatten, ∀ r ∈ Text.lowerRuns.runs.toList,
      ¬ ((r.first : Int) ≤ l.toNat - r.shift ∧ (l.toNat - r.shift : Int) ≤ r.last) :=
    forall_mem_of_all (by decide +kernel)
  have hsmall := hascii letter hletter
  intro heq
  rw [Text.lowerCode, if_neg (by omega)] at heq
  rcases Text.lowerRuns.apply_cases n with hsame | hzero | ⟨r, hr, hfirst, hlast, happly⟩
  · omega
  · omega
  · apply hruns letter hletter r hr
    omega

theorem isLetter_iff {letter c : Char} (hletter : letter ∈ words.flatten) :
    isLetter letter c = true ↔ IsFormOf letter c := by
  have hascii : ∀ l ∈ words.flatten, ∀ n < 0x80, Text.lowerCode n = l.toNat ↔
      n = l.toNat ∨ n = l.toUpper.toNat := forall_mem_of_all (by decide +kernel)
  have hsmall : ∀ l ∈ words.flatten, l.toNat < 0x80 ∧ l.toUpper.toNat < 0x80 :=
    forall_mem_of_all (by decide)
  have hcode : ∀ d : Char, c = d ↔ c.toNat = d.toNat := by
    intro d
    constructor
    · intro h
      rw [h]
    · exact Char.toNat_inj.mp
  have hlong : ('ſ').toNat = 0x17F := rfl
  rw [IsFormOf, isLetter, hcode letter, hcode letter.toUpper, hcode 'ſ', hlong]
  simp only [Bool.or_eq_true, Bool.and_eq_true, beq_iff_eq, ← or_assoc]
  -- Within ASCII the codes are gone through; beyond it only the long s is in question.
  by_cases hc : c.toNat < 0x80
  · rw [hascii letter hletter c.toNat hc]
  · have hne := lowerCode_ne hletter (Nat.le_of_not_lt hc)
    have hletter := hsmall letter hletter
    constructor
    · rintro (heq | hs)
      · exact absurd heq hne
      · exact .inr hs
    · rintro ((heq | heq) | hs)
      · omega
      · omega
      · exact .inr hs

/-- The characters that occur in words. -/
def IsWordLetter (c : Char) : Prop :=
  ∃ letter ∈ words.flatten, IsFormOf letter c

theorem IsWordLetter.mem {c : Char} (h : IsWordLetter c) :
    c ∈ words.flatten ++ words.flatten.map Char.toUpper ++ ['ſ'] := by
  obtain ⟨letter, hletter, hform⟩ := h
  rcases hform with rfl | rfl | ⟨-, rfl⟩
  · simp [hletter]
  · apply List.mem_append_left
    apply List.mem_append_right
    exact List.mem_map_of_mem hletter
  · simp

theorem IsWordLetter.isWord {c : Char} (h : IsWordLetter c) : isWord c = true := by
  have hall : ∀ c ∈ words.flatten ++ words.flatten.map Char.toUpper ++ ['ſ'],
      Text.isWord c = true := forall_mem_of_all (by decide +kernel)
  exact hall c h.mem

/-- What stands between a word and a value is no part of either. -/
def isSeparator (c : Char) : Bool :=
  isBlank c || c == '=' || c == ':'

theorem IsWordLetter.not_isSeparator {c : Char} (h : IsWordLetter c) : isSeparator c = false := by
  have hall : ∀ c ∈ words.flatten ++ words.flatten.map Char.toUpper ++ ['ſ'],
      isSeparator c = false := forall_mem_of_all (by decide +kernel)
  exact hall c h.mem

/-! ### Words -/

/-- The characters are one of the words, in any letter case. -/
def Announces (cs : List Char) : Prop :=
  ∃ word ∈ words, List.Forall₂ IsFormOf word cs

/-- A word can begin here: the text so far does not end in the middle of a longer one. -/
def IsBoundary (before : List Char) : Prop :=
  ∀ c ∈ before.getLast?, isWord c = false

theorem exists_letter {word cs : List Char} (h : List.Forall₂ IsFormOf word cs) :
    ∀ c ∈ cs, ∃ letter ∈ word, IsFormOf letter c := by
  induction h with
  | nil => simp
  | @cons letter d word cs hform _ ih =>
    intro c hc
    rcases List.mem_cons.mp hc with rfl | hc
    · exact ⟨letter, List.mem_cons_self, hform⟩
    · obtain ⟨letter', hletter', hform'⟩ := ih c hc
      exact ⟨letter', List.mem_cons_of_mem letter hletter', hform'⟩

theorem Announces.isWordLetter {cs : List Char} (h : Announces cs) : ∀ c ∈ cs, IsWordLetter c := by
  obtain ⟨word, hword, hforms⟩ := h
  intro c hc
  obtain ⟨letter, hletter, hform⟩ := exists_letter hforms c hc
  exact ⟨letter, List.mem_flatten_of_mem hword hletter, hform⟩

theorem Announces.not_isBoundary {front tail : List Char} (h : Announces (front ++ tail))
    (hne : front ≠ []) (before : List Char) : ¬ IsBoundary (before ++ front) := by
  obtain ⟨init, c, rfl⟩ := (List.eq_nil_or_concat' front).resolve_left hne
  intro hboundary
  have hword : isWord c = true := (h.isWordLetter c (by simp)).isWord
  rw [hboundary c (by simp)] at hword
  cases hword

theorem Announces.exists_cons {cs : List Char} (h : Announces cs) :
    ∃ c rest, cs = c :: rest ∧ (IsFormOf 'p' c ∨ IsFormOf 's' c) := by
  have hfirst : ∀ word ∈ words, word.head? = some 'p' ∨ word.head? = some 's' := by decide
  obtain ⟨word, hword, hforms⟩ := h
  have hletter := hfirst word hword
  cases hforms with
  | nil => simp at hletter
  | @cons letter c word cs hform _ =>
    refine ⟨c, cs, rfl, ?_⟩
    rcases hletter with hp | hs
    · cases hp
      exact .inl hform
    · cases hs
      exact .inr hform

theorem afterWord_eq_some_iff {word cs rest : List Char} (hword : ∀ l ∈ word, l ∈ words.flatten) :
    afterWord word cs = some rest ↔
      ∃ front, List.Forall₂ IsFormOf word front ∧ cs = front ++ rest := by
  induction word generalizing cs with
  | nil => simp [afterWord, eq_comm]
  | cons letter word ih =>
    obtain ⟨hletter, hword⟩ := List.forall_mem_cons.mp hword
    cases cs with
    | nil => simp [afterWord]
    | cons c cs =>
      rw [afterWord]
      constructor
      · intro h
        split at h
        · next hc =>
          obtain ⟨front, hforms, rfl⟩ := (ih hword).mp h
          exact ⟨c :: front, .cons ((isLetter_iff hletter).mp hc) hforms, rfl⟩
        · cases h
      · rintro ⟨front, hforms, heq⟩
        cases hforms with
        | cons hform hforms =>
          obtain ⟨rfl, rfl⟩ := List.cons.inj heq
          rw [if_pos ((isLetter_iff hletter).mpr hform)]
          exact (ih hword).mpr ⟨_, hforms, rfl⟩

/-! ### Values -/

def IsQuoted (value : List Char) : Prop :=
  ∃ q body, (q = '"' ∨ q = '\'') ∧ q ∉ body ∧ value = q :: (body ++ [q])

/-- A run of characters as long as it can be, where no text in quotes begins. -/
structure IsBare (value rest : List Char) : Prop where
  nonempty : value ≠ []
  chars : ∀ c ∈ value, isBlank c = false
  ends : ∀ c ∈ rest.head?, isBlank c = true
  unquoted : ∀ quoted behind, IsQuoted quoted → value ++ rest ≠ quoted ++ behind

/-- The value at the start of `value ++ rest`. -/
def IsValue (value rest : List Char) : Prop :=
  IsQuoted value ∨ IsBare value rest

theorem bne_of_not_mem {q : Char} {cs : List Char} (h : q ∉ cs) : ∀ c ∈ cs, (c != q) = true := by
  intro c hc
  rw [bne_iff_ne]
  rintro rfl
  exact h hc

theorem quotedValue?_eq_some_iff {q last : Char} {cs rest : List Char} :
    quotedValue? q cs = some (last, rest) ↔
      last = q ∧ ∃ body, q ∉ body ∧ cs = q :: (body ++ q :: rest) := by
  cases cs with
  | nil => simp [quotedValue?]
  | cons c cs =>
    rw [quotedValue?]
    by_cases hc : c = q
    · subst hc
      rw [if_pos rfl]
      constructor
      · intro h
        split at h
        · cases h
        · next hd =>
          cases h
          -- What is found behind the run ends it, and so is the other quote.
          have hlast : last = c := by
            have hhead := Cut.head_dropWhile (· != c) cs
            rw [hd] at hhead
            simpa using hhead
          refine ⟨hlast, cs.takeWhile (· != c), ?_, ?_⟩
          · intro hmem
            simpa using List.mem_takeWhile_imp hmem
          · rw [← hlast, ← hd, hlast, List.takeWhile_append_dropWhile]
      · rintro ⟨rfl, body, hmem, heq⟩
        rw [(List.cons.inj heq).2, List.dropWhile_append_of_pos (bne_of_not_mem hmem)]
        simp
    · simp [hc]

theorem not_isBlank_of_mem_run {cs : List Char} :
    ∀ c ∈ cs.takeWhile (!isBlank ·), isBlank c = false := by
  intro c hc
  simpa using List.mem_takeWhile_imp hc

theorem isBlank_of_behind_run {cs : List Char} :
    ∀ c ∈ (cs.dropWhile (!isBlank ·)).head?, isBlank c = true := by
  intro c hc
  simpa using Cut.head_dropWhile (!isBlank ·) cs c hc

theorem bareValue?_eq_some_iff {last : Char} {cs rest : List Char} :
    bareValue? cs = some (last, rest) ↔ ∃ value, value.getLast? = some last ∧
      (∀ c ∈ value, isBlank c = false) ∧ (∀ c ∈ rest.head?, isBlank c = true) ∧
        cs = value ++ rest := by
  rw [bareValue?]
  constructor
  · intro h
    split at h
    · cases h
    · next hlast =>
      cases h
      exact ⟨_, hlast, not_isBlank_of_mem_run, isBlank_of_behind_run,
        List.takeWhile_append_dropWhile.symm⟩
  · rintro ⟨value, hlast, hchars, hends, rfl⟩
    have hvalue : ∀ c ∈ value, (!isBlank c) = true := by
      intro c hc
      simp [hchars c hc]
    rw [List.takeWhile_append_of_pos hvalue, List.dropWhile_append_of_pos hvalue]
    cases rest with
    | nil => simp [hlast]
    | cons c rest => simp [hlast, hends c rfl]

theorem IsQuoted.exists_quote {value : List Char} (h : IsQuoted value) : ∃ q,
    (q = '"' ∨ q = '\'') ∧ value.head? = some q ∧ value.getLast? = some q := by
  obtain ⟨q, body, hq, -, rfl⟩ := h
  refine ⟨q, hq, rfl, ?_⟩
  rw [← List.cons_append, List.getLast?_concat]

theorem not_isBlank_quote {q : Char} (hq : q = '"' ∨ q = '\'') : isBlank q = false := by
  rcases hq with rfl | rfl <;> decide

theorem IsValue.exists_cons {value rest : List Char} (h : IsValue value rest) :
    ∃ c cs, value = c :: cs ∧ isBlank c = false := by
  rcases h with ⟨q, body, hq, -, rfl⟩ | hbare
  · exact ⟨q, _, rfl, not_isBlank_quote hq⟩
  · obtain ⟨c, cs, rfl⟩ := List.exists_cons_of_ne_nil hbare.nonempty
    exact ⟨c, cs, rfl, hbare.chars c List.mem_cons_self⟩

theorem IsValue.exists_last {value rest : List Char} (h : IsValue value rest) :
    ∃ last, value.getLast? = some last := by
  obtain ⟨c, cs, rfl, -⟩ := h.exists_cons
  exact ⟨_, List.getLast?_cons⟩

theorem IsValue.not_isBlank_head {value behind : List Char} (h : IsValue value behind) :
    ∀ c ∈ (value ++ behind).head?, isBlank c = false := by
  intro c hc
  obtain ⟨d, cs, rfl, hd⟩ := h.exists_cons
  cases hc
  exact hd

/-- No text in quotes begins where neither of the quotes is found with its partner. -/
theorem unquoted_iff {cs : List Char} :
    (∀ quoted behind, IsQuoted quoted → cs ≠ quoted ++ behind) ↔
      ∀ q : Char, q = '"' ∨ q = '\'' → quotedValue? q cs = none := by
  constructor
  · intro h q hq
    rw [Option.eq_none_iff_forall_ne_some]
    rintro ⟨last, behind⟩ hfound
    obtain ⟨-, body, hbody, heq⟩ := quotedValue?_eq_some_iff.mp hfound
    apply h (q :: (body ++ [q])) behind ⟨q, body, hq, hbody, rfl⟩
    rw [heq]
    simp
  · rintro h quoted behind ⟨q, body, hq, hbody, rfl⟩ rfl
    have hfound : quotedValue? q (q :: (body ++ [q]) ++ behind) = some (q, behind) := by
      rw [quotedValue?_eq_some_iff]
      exact ⟨rfl, body, hbody, by simp⟩
    rw [h q hq] at hfound
    cases hfound

theorem value?_eq_some_iff {last : Char} {cs rest : List Char} :
    value? cs = some (last, rest) ↔
      ∃ value, value.getLast? = some last ∧ IsValue value rest ∧ cs = value ++ rest := by
  have hfind : ∀ q : Char, q = '"' ∨ q = '\'' → quotedValue? q cs = some (last, rest) →
      ∃ value, value.getLast? = some last ∧ IsValue value rest ∧ cs = value ++ rest := by
    intro q hq h
    obtain ⟨rfl, body, hbody, rfl⟩ := quotedValue?_eq_some_iff.mp h
    refine ⟨last :: (body ++ [last]), ?_, .inl ⟨last, body, hq, hbody, rfl⟩, by simp⟩
    rw [← List.cons_append, List.getLast?_concat]
  rw [value?]
  simp only [Option.or_eq_some_iff]
  constructor
  · rintro (h | ⟨hdouble, h | ⟨hsingle, h⟩⟩)
    · exact hfind '"' (.inl rfl) h
    · exact hfind '\'' (.inr rfl) h
    · obtain ⟨value, hlast, hchars, hends, rfl⟩ := bareValue?_eq_some_iff.mp h
      refine ⟨value, hlast, .inr ⟨?_, hchars, hends, ?_⟩, rfl⟩
      · rintro rfl
        cases hlast
      · rw [unquoted_iff]
        rintro q (rfl | rfl)
        · exact hdouble
        · exact hsingle
  · rintro ⟨value, hlast, hquoted | hbare, rfl⟩
    · obtain ⟨q, body, hq, hbody, rfl⟩ := hquoted
      rw [← List.cons_append, List.getLast?_concat] at hlast
      cases hlast
      have hfound : quotedValue? last (last :: (body ++ [last]) ++ rest) = some (last, rest) := by
        rw [quotedValue?_eq_some_iff]
        exact ⟨rfl, body, hbody, by simp⟩
      rcases hq with rfl | rfl
      · exact .inl hfound
      · exact .inr ⟨by simp [quotedValue?], .inl hfound⟩
    · have hnone := unquoted_iff.mp hbare.unquoted
      refine .inr ⟨hnone '"' (.inl rfl), .inr ⟨hnone '\'' (.inr rfl), ?_⟩⟩
      exact bareValue?_eq_some_iff.mpr ⟨value, hlast, hbare.chars, hbare.ends, rfl⟩

/-! ### Passages -/

/-- An assignment in its parts. -/
structure Passage where
  word : List Char
  /-- The blanks before the sign. -/
  left : List Char
  sign : Char
  /-- The blanks behind the sign. -/
  right : List Char
  value : List Char
deriving DecidableEq, Repr

def Passage.text (p : Passage) : List Char :=
  p.word ++ (p.left ++ p.sign :: (p.right ++ p.value))

/-- The parts make an assignment at the start of `p.text ++ rest`. -/
structure Passage.Stands (p : Passage) (rest : List Char) : Prop where
  word : Announces p.word
  left : ∀ c ∈ p.left, isBlank c = true
  sign : p.sign = '=' ∨ p.sign = ':'
  right : ∀ c ∈ p.right, isBlank c = true
  value : IsValue p.value rest

theorem IsValue.unique {value rest value' rest' : List Char} (h : IsValue value rest)
    (h' : IsValue value' rest') (heq : value ++ rest = value' ++ rest') :
    value = value' ∧ rest = rest' := by
  have hchars : ∀ {cs : List Char}, (∀ c ∈ cs, isBlank c = false) → ∀ c ∈ cs, (!isBlank c) = true :=
    fun hcs c hc => by simp [hcs c hc]
  have hends : ∀ {o : Option Char}, (∀ c ∈ o, isBlank c = true) → ∀ c ∈ o, (!isBlank c) = false :=
    fun ho c hc => by simp [ho c hc]
  rcases h with hquoted | hbare
  · rcases h' with hquoted' | hbare'
    · obtain ⟨q, body, -, hbody, rfl⟩ := hquoted
      obtain ⟨q', body', -, hbody', rfl⟩ := hquoted'
      simp only [List.cons_append, List.append_assoc, List.nil_append, List.cons.injEq] at heq
      obtain ⟨rfl, heq⟩ := heq
      obtain ⟨rfl, hrest⟩ := Cut.unique (p := (· != q)) (bne_of_not_mem hbody) (by simp)
        (bne_of_not_mem hbody') (by simp) heq
      exact ⟨rfl, (List.cons.inj hrest).2⟩
    · exact absurd heq.symm (hbare'.unquoted _ _ hquoted)
  · rcases h' with hquoted' | hbare'
    · exact absurd heq (hbare.unquoted _ _ hquoted')
    · exact Cut.unique (hchars hbare.chars) (hends hbare.ends) (hchars hbare'.chars)
        (hends hbare'.ends) heq

/-- At most one assignment begins at a place. -/
theorem Passage.Stands.unique {p p' : Passage} {rest rest' : List Char} (h : p.Stands rest)
    (h' : p'.Stands rest') (heq : p.text ++ rest = p'.text ++ rest') : p = p' ∧ rest = rest' := by
  have hword : ∀ {q : Passage}, Announces q.word → ∀ c ∈ q.word, (!isSeparator c) = true := by
    intro q hq c hc
    simp [(hq.isWordLetter c hc).not_isSeparator]
  have hsign : ∀ {c : Char}, c = '=' ∨ c = ':' → isSeparator c = true ∧ isBlank c = false := by
    rintro c (rfl | rfl) <;> decide
  have hafter : ∀ {q : Passage} {behind : List Char}, q.Stands behind →
      ∀ c ∈ (q.left ++ q.sign :: (q.right ++ (q.value ++ behind))).head?,
        (!isSeparator c) = false := by
    intro q behind hq c hc
    cases hleft : q.left with
    | nil =>
      rw [hleft] at hc
      cases hc
      simp [(hsign hq.sign).1]
    | cons d left =>
      rw [hleft] at hc
      cases hc
      have hblank := hq.left c (by simp [hleft])
      simp [isSeparator, hblank]
  -- Words, blanks, sign, blanks, value: each part ends where a character of another kind begins.
  obtain ⟨word, left, sign, right, value⟩ := p
  obtain ⟨word', left', sign', right', value'⟩ := p'
  simp only [Passage.text, List.append_assoc, List.cons_append] at heq
  obtain ⟨rfl, heq⟩ := Cut.unique (hword h.word) (hafter h) (hword h'.word) (hafter h') heq
  obtain ⟨rfl, heq⟩ := Cut.unique h.left (by simp [(hsign h.sign).2]) h'.left
    (by simp [(hsign h'.sign).2]) heq
  obtain ⟨rfl, heq⟩ := List.cons.inj heq
  obtain ⟨rfl, heq⟩ := Cut.unique h.right h.value.not_isBlank_head h'.right h'.value.not_isBlank_head heq
  obtain ⟨rfl, rfl⟩ := h.value.unique h'.value heq
  exact ⟨rfl, rfl⟩

/-! ### What the scanner finds -/

theorem afterSign_eq_some_iff {cs rest : List Char} :
    afterSign cs = some rest ↔ ∃ c, (c = '=' ∨ c = ':') ∧ cs = c :: rest := by
  cases cs with
  | nil => simp [afterSign]
  | cons c cs =>
    rw [afterSign]
    constructor
    · intro h
      split at h
      · next hc =>
        cases h
        exact ⟨c, hc, rfl⟩
      · cases h
    · rintro ⟨d, hd, heq⟩
      cases heq
      rw [if_pos hd]

theorem assignmentOf_eq_some_iff {word cs : List Char} {a : Assignment} (hword : word ∈ words) :
    assignmentOf word cs = some a ↔ ∃ p : Passage, List.Forall₂ IsFormOf word p.word ∧
      p.Stands a.rest ∧ cs = p.text ++ a.rest ∧ a.word = p.word ∧
        p.value.getLast? = some a.last := by
  have hletters : ∀ l ∈ word, l ∈ words.flatten := fun l hl => List.mem_flatten_of_mem hword hl
  obtain ⟨found, last, rest⟩ := a
  simp only [assignmentOf, Option.bind_eq_bind, Option.bind_eq_some_iff, Option.pure_def,
    Option.some.injEq, Assignment.mk.injEq, Prod.exists]
  constructor
  · rintro ⟨behind, hafter, behindSign, hsign, last', rest', hv, rfl, rfl, rfl⟩
    obtain ⟨front, hforms, rfl⟩ := (afterWord_eq_some_iff hletters).mp hafter
    obtain ⟨c, hc, hcut⟩ := afterSign_eq_some_iff.mp hsign
    obtain ⟨value, hlast, hvalue, hcut'⟩ := value?_eq_some_iff.mp hv
    refine ⟨⟨front, behind.takeWhile isBlank, c, behindSign.takeWhile isBlank, value⟩, hforms,
      ⟨⟨word, hword, hforms⟩, ?_, hc, ?_, hvalue⟩, ?_, ?_, hlast⟩
    · exact fun d hd => List.mem_takeWhile_imp hd
    · exact fun d hd => List.mem_takeWhile_imp hd
    · calc front ++ behind
          = front ++ (behind.takeWhile isBlank ++ behind.dropWhile isBlank) := by
            rw [List.takeWhile_append_dropWhile]
        _ = front ++ (behind.takeWhile isBlank ++ c :: (behindSign.takeWhile isBlank ++
              behindSign.dropWhile isBlank)) := by
            rw [hcut, List.takeWhile_append_dropWhile]
        _ = _ := by
            rw [hcut', Passage.text]
            simp only [List.append_assoc, List.cons_append]
    · rw [hforms.length_eq, List.take_left]
  · rintro ⟨p, hforms, hp, rfl, rfl, hlast⟩
    have hsign : isBlank p.sign = false := by
      rcases hp.sign with h | h <;> rw [h] <;> decide
    refine ⟨p.left ++ p.sign :: (p.right ++ (p.value ++ rest)), ?_, p.right ++ (p.value ++ rest), ?_,
      last, rest, ?_, ?_, rfl, rfl⟩
    · rw [afterWord_eq_some_iff hletters]
      refine ⟨p.word, hforms, ?_⟩
      simp only [Passage.text, List.append_assoc, List.cons_append]
    · rw [Cut.dropWhile_append hp.left (by simp [hsign])]
      exact afterSign_eq_some_iff.mpr ⟨p.sign, hp.sign, rfl⟩
    · rw [Cut.dropWhile_append hp.right hp.value.not_isBlank_head]
      exact value?_eq_some_iff.mpr ⟨p.value, hlast, hp.value, rfl⟩
    · rw [Passage.text, List.append_assoc, hforms.length_eq, List.take_left]

/-- The scanner finds the assignment that begins at a place. -/
theorem assignment?_eq_some_iff {cs : List Char} {a : Assignment} :
    assignment? cs = some a ↔ ∃ p : Passage, p.Stands a.rest ∧ cs = p.text ++ a.rest ∧
      a.word = p.word ∧ p.value.getLast? = some a.last := by
  have hfound : ∀ b, assignment? cs = some b → ∃ p : Passage, p.Stands b.rest ∧
      cs = p.text ++ b.rest ∧ b.word = p.word ∧ p.value.getLast? = some b.last := by
    intro b hb
    obtain ⟨word, hword, hb⟩ := List.exists_of_findSome?_eq_some hb
    obtain ⟨p, -, hp⟩ := (assignmentOf_eq_some_iff hword).mp hb
    exact ⟨p, hp⟩
  constructor
  · exact hfound a
  · rintro ⟨p, hp, hcs, hword, hlast⟩
    obtain ⟨word, hmem, hforms⟩ := hp.word
    have hsome : assignmentOf word cs = some a :=
      (assignmentOf_eq_some_iff hmem).mpr ⟨p, hforms, hp, hcs, hword, hlast⟩
    -- the scanner finds some assignment, and there is only this one
    cases hb : assignment? cs with
    | none =>
      have hnone := List.findSome?_eq_none_iff.mp hb word hmem
      rw [hsome] at hnone
      cases hnone
    | some b =>
      obtain ⟨p', hp', hcs', hword', hlast'⟩ := hfound b hb
      obtain ⟨rfl, hrest⟩ := hp.unique hp' (hcs.symm.trans hcs')
      obtain ⟨aword, alast, arest⟩ := a
      obtain ⟨bword, blast, brest⟩ := b
      simp only at hword hword' hlast hlast' hrest
      rw [hlast] at hlast'
      cases hlast'
      rw [hword, hword', hrest]

theorem assignment?_eq_none_iff {cs : List Char} :
    assignment? cs = none ↔
      ∀ (p : Passage) (rest : List Char), p.Stands rest → cs ≠ p.text ++ rest := by
  constructor
  · intro hnone p rest hp hcs
    obtain ⟨last, hlast⟩ := hp.value.exists_last
    have hsome : assignment? cs = some ⟨p.word, last, rest⟩ :=
      assignment?_eq_some_iff.mpr ⟨p, hp, hcs, rfl, hlast⟩
    rw [hnone] at hsome
    cases hsome
  · intro h
    cases ha : assignment? cs with
    | none => rfl
    | some a =>
      obtain ⟨p, hp, hcs, -⟩ := assignment?_eq_some_iff.mp ha
      exact absurd hcs (h p a.rest hp)

/-! ### Where an assignment begins -/

theorem exists_value {c : Char} (hc : isBlank c = false) (cs : List Char) :
    ∃ value rest, IsValue value rest ∧ c :: cs = value ++ rest := by
  by_cases hquoted : ∃ quoted behind, IsQuoted quoted ∧ c :: cs = quoted ++ behind
  · obtain ⟨quoted, behind, hq, heq⟩ := hquoted
    exact ⟨quoted, behind, .inl hq, heq⟩
  · have hcut : (c :: cs).takeWhile (!isBlank ·) ++ (c :: cs).dropWhile (!isBlank ·) = c :: cs :=
      List.takeWhile_append_dropWhile
    refine ⟨_, _, .inr ⟨by simp [hc], not_isBlank_of_mem_run, isBlank_of_behind_run, ?_⟩, hcut.symm⟩
    intro quoted behind hq heq
    rw [hcut] at heq
    exact hquoted ⟨quoted, behind, hq, heq⟩

/-- A word is there, then a sign between blanks, and then something else. -/
def Opens (cs : List Char) : Prop :=
  ∃ word left sign right c rest, Announces word ∧ (∀ d ∈ left, isBlank d = true) ∧
    (sign = '=' ∨ sign = ':') ∧ (∀ d ∈ right, isBlank d = true) ∧ isBlank c = false ∧
      cs = word ++ (left ++ sign :: (right ++ c :: rest))

theorem opens_iff {cs : List Char} :
    Opens cs ↔ ∃ (p : Passage) (rest : List Char), p.Stands rest ∧ cs = p.text ++ rest := by
  constructor
  · rintro ⟨word, left, sign, right, c, rest, hword, hleft, hsign, hright, hc, rfl⟩
    obtain ⟨value, behind, hvalue, heq⟩ := exists_value hc rest
    refine ⟨⟨word, left, sign, right, value⟩, behind, ⟨hword, hleft, hsign, hright, hvalue⟩, ?_⟩
    simp only [Passage.text, List.append_assoc, List.cons_append, heq]
  · rintro ⟨p, rest, hp, rfl⟩
    obtain ⟨c, value, hvalue, hc⟩ := hp.value.exists_cons
    refine ⟨p.word, p.left, p.sign, p.right, c, value ++ rest, hp.word, hp.left, hp.sign, hp.right,
      hc, ?_⟩
    simp only [Passage.text, hvalue, List.append_assoc, List.cons_append]

theorem Opens.exists_cons {cs : List Char} (h : Opens cs) :
    ∃ c rest, cs = c :: rest ∧ (IsFormOf 'p' c ∨ IsFormOf 's' c) := by
  obtain ⟨word, left, sign, right, c, rest, hword, -, -, -, -, rfl⟩ := h
  obtain ⟨d, word, rfl, hd⟩ := hword.exists_cons
  exact ⟨d, _, rfl, hd⟩

theorem IsWordLetter.not_isBlank {c : Char} (h : IsWordLetter c) : isBlank c = false := by
  have hseparator := h.not_isSeparator
  simp only [isSeparator, Bool.or_eq_false_iff] at hseparator
  exact hseparator.1.1

/-- A list is cut behind its first part, or within it. -/
theorem append_cases {a b front tail : List Char} (h : a ++ b = front ++ tail) :
    (∃ later, front = a ++ later ∧ b = later ++ tail) ∨
      ∃ mid, mid ≠ [] ∧ a = front ++ mid ∧ tail = mid ++ b := by
  rcases List.append_eq_append_iff.mp h with hbehind | ⟨mid, ha, htail⟩
  · exact .inl hbehind
  · by_cases hmid : mid = []
    · subst hmid
      rw [List.append_nil] at ha
      exact .inl ⟨[], by rw [ha, List.append_nil], htail.symm⟩
    · exact .inr ⟨mid, hmid, ha, htail⟩

/-- Whether an assignment begins in front of a word does not depend on what stands behind that word:
at the latest the word supplies the character that is needed. -/
theorem Opens.congr {gap word behind : List Char} (h : Opens (gap ++ (word ++ behind)))
    (hgap : IsBoundary gap) (hne : gap ≠ []) (hword : Announces word) (behind' : List Char) :
    Opens (gap ++ (word ++ behind')) := by
  obtain ⟨first, left, sign, right, c, rest, hfirst, hleft, hsign, hright, hc, heq⟩ := h
  obtain ⟨w, ws, rfl, -⟩ := hword.exists_cons
  have hw : IsWordLetter w := hword.isWordLetter w List.mem_cons_self
  have hseparator : ∀ d ∈ left ++ sign :: right, isSeparator d = true := by
    intro d hd
    simp only [List.mem_append, List.mem_cons] at hd
    rcases hd with hd | rfl | hd
    · simp [isSeparator, hleft d hd]
    · rcases hsign with rfl | rfl <;> decide
    · simp [isSeparator, hright d hd]
  have hcut : first ++ ((left ++ sign :: right) ++ c :: rest) = gap ++ (w :: ws ++ behind) := by
    rw [heq]
    simp only [List.append_assoc, List.cons_append]
  rcases append_cases hcut with ⟨later, rfl, hlater⟩ | ⟨inside, -, rfl, -⟩
  · rcases append_cases hlater with ⟨short, rfl, hrest⟩ | ⟨mid, hmid, hseparators, hbehind⟩
    · -- The character that is needed stands in the gap, or it is the first of the word.
      cases short with
      | nil =>
        refine ⟨first, left, sign, right, w, ws ++ behind', hfirst, hleft, hsign, hright,
          hw.not_isBlank, ?_⟩
        simp only [List.append_assoc, List.cons_append, List.nil_append]
      | cons d short =>
        obtain ⟨rfl, -⟩ := List.cons.inj hrest
        refine ⟨first, left, sign, right, c, short ++ (w :: ws ++ behind'), hfirst, hleft, hsign,
          hright, hc, ?_⟩
        simp only [List.append_assoc, List.cons_append]
    · -- The word does not begin with a separator.
      obtain ⟨d, mid, rfl⟩ := List.exists_cons_of_ne_nil hmid
      obtain ⟨rfl, -⟩ := List.cons.inj hbehind
      have hd := hseparator w (by simp [hseparators])
      rw [hw.not_isSeparator] at hd
      cases hd
  · exact absurd hgap (hfirst.not_isBoundary hne [])

end Redact
end Coffer
