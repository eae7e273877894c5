import Coffer.Proofs.Cut
import Coffer.Token.Lexer

/-!
The characters that are one token.

`IsSpan behind source kind text` says which characters `source` of a text, with the characters
`behind` following them, are a token of what kind and with what text. It is said without the
scanner: a word is as long as it can be, a lone dot is a sign, a literal runs to the first quote of
its kind that is not escaped (`Unescapes`).

What is proved here: a step of the scan yields a token exactly if the input starts with a span, and
takes just its characters (`step_of_isSpan`, `isSpan_of_step`); a step that fails does so at the
first character that cannot be shown, or at the quote of a literal that nothing closes
(`step_outcome`).
-/

namespace Coffer.Token

open Text (isBlank isPrintable)

variable {pos start : Nat} {q c d : Char} {input rest behind : List Char}

/-! ### Characters that can be shown -/

/-- All characters have a visible form or are blank. -/
def AreLegible (cs : List Char) : Prop :=
  ∀ c ∈ cs, (isPrintable c || isBlank c) = true

instance (cs : List Char) : Decidable (AreLegible cs) :=
  decidable_of_iff (cs.all fun c => isPrintable c || isBlank c) List.all_eq_true

theorem areLegible_cons {cs : List Char} :
    AreLegible (c :: cs) ↔ (isPrintable c || isBlank c) = true ∧ AreLegible cs :=
  List.forall_mem_cons

theorem areLegible_append {cs ds : List Char} :
    AreLegible (cs ++ ds) ↔ AreLegible cs ∧ AreLegible ds :=
  List.forall_mem_append

theorem areLegible_of_printable {cs : List Char} (h : ∀ c ∈ cs, isPrintable c = true) :
    AreLegible cs := by
  intro c hc
  simp [h c hc]

theorem areLegible_of_blank {cs : List Char} (h : ∀ c ∈ cs, isBlank c = true) : AreLegible cs := by
  intro c hc
  simp [h c hc]

/-- The first character of the input that has no visible form and is no blank is `c`, at offset
`n`. -/
def IllegibleAt (n : Nat) (c : Char) (input : List Char) : Prop :=
  ∃ front tail, input = front ++ c :: tail ∧ front.length = n ∧ AreLegible front ∧
    (isPrintable c || isBlank c) = false

theorem IllegibleAt.head (hc : (isPrintable c || isBlank c) = false) :
    IllegibleAt 0 c (c :: input) :=
  ⟨[], input, rfl, rfl, by simp [AreLegible], hc⟩

/-- What stands in front only moves the character. -/
theorem IllegibleAt.append {n : Nat} {front : List Char} (hfront : AreLegible front)
    (h : IllegibleAt n c input) : IllegibleAt (front.length + n) c (front ++ input) := by
  obtain ⟨before, tail, rfl, rfl, hbefore, hc⟩ := h
  refine ⟨front ++ before, tail, by simp, by simp, ?_, hc⟩
  exact areLegible_append.mpr ⟨hfront, hbefore⟩

theorem IllegibleAt.cons {n : Nat} (hd : (isPrintable d || isBlank d) = true)
    (h : IllegibleAt n c input) : IllegibleAt (n + 1) c (d :: input) := by
  have hfront : AreLegible [d] := List.forall_mem_singleton.mpr hd
  have hmoved := h.append hfront
  rwa [List.length_singleton, Nat.add_comm] at hmoved

theorem IllegibleAt.append_right {n : Nat} (behind : List Char) (h : IllegibleAt n c input) :
    IllegibleAt n c (input ++ behind) := by
  obtain ⟨front, tail, rfl, hn, hfront, hc⟩ := h
  exact ⟨front, tail ++ behind, by simp, hn, hfront, hc⟩

theorem IllegibleAt.unique {n m : Nat} (h : IllegibleAt n c input) (h' : IllegibleAt m d input) :
    n = m ∧ c = d := by
  obtain ⟨front, tail, rfl, rfl, hfront, hc⟩ := h
  obtain ⟨front', tail', heq, rfl, hfront', hd⟩ := h'
  induction front generalizing front' with
  | nil =>
    cases front' with
    | nil => exact ⟨rfl, (List.cons.inj heq).1⟩
    | cons x front' =>
      obtain ⟨rfl, -⟩ := List.cons.inj heq
      rw [(areLegible_cons.mp hfront').1] at hc
      cases hc
  | cons x front ih =>
    cases front' with
    | nil =>
      obtain ⟨rfl, -⟩ := List.cons.inj heq
      rw [(areLegible_cons.mp hfront).1] at hd
      cases hd
    | cons y front' =>
      obtain ⟨hlength, hsame⟩ := ih (areLegible_cons.mp hfront).2 front' (List.cons.inj heq).2
        (areLegible_cons.mp hfront').2
      exact ⟨by rw [List.length_cons, List.length_cons, hlength], hsame⟩

theorem IllegibleAt.not_areLegible {n : Nat} (h : IllegibleAt n c input) : ¬AreLegible input := by
  obtain ⟨front, tail, rfl, -, -, hc⟩ := h
  intro hall
  have hshown := hall c (by simp)
  rw [hc] at hshown
  cases hshown

/-! ### Literals, one character at a time -/

section Literal

theorem literal_escaped (hd : d = q ∨ d = '\\') :
    literal q start pos ('\\' :: d :: rest) =
      (literal q start (pos + 2) rest).map (.cons d) := by
  rw [literal.eq_def]
  simp only [if_true, if_pos hd]

theorem literal_backslash (hd : ¬(d = q ∨ d = '\\')) :
    literal q start pos ('\\' :: d :: rest) =
      (literal q start (pos + 1) (d :: rest)).map (.cons '\\') := by
  rw [literal.eq_def]
  simp only [if_true, if_neg hd]

theorem literal_close (hq : q ≠ '\\') :
    literal q start pos (q :: rest) = .ok ⟨[], pos + 1, rest⟩ := by
  rw [literal.eq_def]
  simp only [if_neg hq, if_true]

theorem literal_plain (hb : c ≠ '\\') (hq : c ≠ q) (hc : (isPrintable c || isBlank c) = true) :
    literal q start pos (c :: rest) = (literal q start (pos + 1) rest).map (.cons c) := by
  rw [literal.eq_def]
  simp only [if_neg hb, if_neg hq, if_pos hc]

theorem literal_unrecognised (hb : c ≠ '\\') (hq : c ≠ q)
    (hc : ¬(isPrintable c || isBlank c) = true) :
    literal q start pos (c :: rest) = .error ⟨.unrecognisedInLiteral c, pos⟩ := by
  rw [literal.eq_def]
  simp only [if_neg hb, if_neg hq, if_neg hc]

theorem exists_of_map_cons {x : Except LexError Literal} {l : Literal}
    (h : x.map (.cons c) = .ok l) : ∃ l', x = .ok l' ∧ l = l'.cons c := by
  cases x with
  | error e => cases h
  | ok l' =>
    cases h
    exact ⟨l', rfl, rfl⟩

theorem error_of_map_cons {x : Except LexError Literal} {e : LexError}
    (h : x.map (Literal.cons c) = .error e) : x = .error e := by
  cases x with
  | error e' =>
    cases h
    rfl
  | ok l => cases h

end Literal

/-! ### Literals as a whole -/

/-- The characters between the quotes of a literal, and the text that they stand for. A backslash
takes a quote of the same kind or a backslash behind it literally; any other backslash, and every
character that can be shown, stands for itself. -/
inductive Unescapes (q : Char) : List Char → List Char → Prop where
  | nil : Unescapes q [] []
  | escaped {d : Char} {body text : List Char} : d = q ∨ d = '\\' → Unescapes q body text →
      Unescapes q ('\\' :: d :: body) (d :: text)
  | backslash {d : Char} {body text : List Char} : ¬(d = q ∨ d = '\\') →
      Unescapes q (d :: body) text → Unescapes q ('\\' :: d :: body) ('\\' :: text)
  | plain {c : Char} {body text : List Char} : c ≠ '\\' → c ≠ q →
      (isPrintable c || isBlank c) = true → Unescapes q body text →
      Unescapes q (c :: body) (c :: text)

theorem backslash_legible : (isPrintable '\\' || isBlank '\\') = true := by
  decide

theorem of_isQuote (hq : isQuote q = true) :
    isPrintable q = true ∧ isBlank q = false ∧ q ≠ '\\' := by
  simp only [isQuote, Bool.or_eq_true, beq_iff_eq] at hq
  rcases hq with rfl | rfl <;> decide

theorem areLegible_escaped (hq : isQuote q = true) (hd : d = q ∨ d = '\\') :
    (isPrintable d || isBlank d) = true := by
  rcases hd with rfl | rfl
  · simp [(of_isQuote hq).1]
  · exact backslash_legible

theorem Unescapes.areLegible {body text : List Char} (hq : isQuote q = true)
    (h : Unescapes q body text) : AreLegible body ∧ AreLegible text := by
  induction h with
  | nil => simp [AreLegible]
  | escaped hd _ ih =>
    simp only [areLegible_cons]
    exact ⟨⟨backslash_legible, areLegible_escaped hq hd, ih.1⟩, areLegible_escaped hq hd, ih.2⟩
  | backslash _ _ ih =>
    simp only [areLegible_cons] at ih ⊢
    exact ⟨⟨backslash_legible, ih.1⟩, backslash_legible, ih.2⟩
  | plain _ _ hc _ ih =>
    simp only [areLegible_cons]
    exact ⟨⟨hc, ih.1⟩, hc, ih.2⟩

/-- What is between the quotes is read up to the closing one, whatever stands behind it. -/
theorem literal_of_unescapes {body text : List Char} (hq : q ≠ '\\') (h : Unescapes q body text) :
    literal q start pos (body ++ q :: rest) = .ok ⟨text, pos + body.length + 1, rest⟩ := by
  induction h generalizing pos with
  | nil => exact literal_close hq
  | @escaped d body text hd _ ih =>
    show literal q start pos ('\\' :: d :: (body ++ q :: rest)) = _
    rw [literal_escaped hd, ih]
    simp only [Except.map, Literal.cons, List.length_cons]
    congr 2
    omega
  | @backslash d body text hd _ ih =>
    show literal q start pos ('\\' :: d :: (body ++ q :: rest)) = _
    rw [literal_backslash hd, ← List.cons_append, ih]
    simp only [Except.map, Literal.cons, List.length_cons]
    congr 2
    omega
  | @plain c body text hb hc hshown _ ih =>
    show literal q start pos (c :: (body ++ q :: rest)) = _
    rw [literal_plain hb hc hshown, ih]
    simp only [Except.map, Literal.cons, List.length_cons]
    congr 2
    omega

/-- A literal that is read closes, and its text is that of what is between the quotes. -/
theorem unescapes_of_literal {l : Literal} (h : literal q start pos input = .ok l) :
    ∃ body, input = body ++ q :: l.rest ∧ Unescapes q body l.text ∧
      l.next = pos + body.length + 1 := by
  fun_induction literal q start pos input generalizing l with
  | case1 | case2 | case7 => cases h
  | case3 pos d tail hd ih =>
    obtain ⟨l', hl, rfl⟩ := exists_of_map_cons h
    obtain ⟨body, rfl, htext, hnext⟩ := ih hl
    refine ⟨'\\' :: d :: body, rfl, .escaped hd htext, ?_⟩
    simp only [Literal.cons, hnext, List.length_cons]
    omega
  | case4 pos d tail hd ih =>
    obtain ⟨l', hl, rfl⟩ := exists_of_map_cons h
    obtain ⟨body, hbody, htext, hnext⟩ := ih hl
    -- the character behind the backslash does not close the literal, so it is in it too
    cases body with
    | nil => exact absurd (.inl (List.cons.inj hbody).1) hd
    | cons x body =>
      obtain ⟨rfl, rfl⟩ := List.cons.inj hbody
      refine ⟨'\\' :: d :: body, rfl, .backslash hd htext, ?_⟩
      simp only [Literal.cons, hnext, List.length_cons]
      omega
  | case5 pos tail hb =>
    cases h
    exact ⟨[], rfl, .nil, rfl⟩
  | case6 pos c tail hb hc hshown ih =>
    obtain ⟨l', hl, rfl⟩ := exists_of_map_cons h
    obtain ⟨body, rfl, htext, hnext⟩ := ih hl
    refine ⟨c :: body, rfl, .plain hb hc hshown htext, ?_⟩
    simp only [Literal.cons, hnext, List.length_cons]
    omega

/-- A literal that is not read goes on to the end, or has a character that cannot be shown. -/
theorem literal_error {e : LexError} (hq : isQuote q = true)
    (h : literal q start pos input = .error e) :
    (e = ⟨.unterminatedLiteral, start⟩ ∧ AreLegible input) ∨
      ∃ n c, IllegibleAt n c input ∧ e = ⟨.unrecognisedInLiteral c, pos + n⟩ := by
  -- a character in front that can be shown is kept on either side
  have keep : ∀ {pos : Nat} {d : Char} {input : List Char},
      (isPrintable d || isBlank d) = true →
      ((e = ⟨.unterminatedLiteral, start⟩ ∧ AreLegible input) ∨
        ∃ n c, IllegibleAt n c input ∧ e = ⟨.unrecognisedInLiteral c, pos + 1 + n⟩) →
      ((e = ⟨.unterminatedLiteral, start⟩ ∧ AreLegible (d :: input)) ∨
        ∃ n c, IllegibleAt n c (d :: input) ∧ e = ⟨.unrecognisedInLiteral c, pos + n⟩) := by
    intro pos d input hd hrest
    rcases hrest with ⟨he, hall⟩ | ⟨n, c, hc, he⟩
    · exact .inl ⟨he, areLegible_cons.mpr ⟨hd, hall⟩⟩
    · refine .inr ⟨n + 1, c, hc.cons hd, ?_⟩
      rw [he, Nat.add_assoc, Nat.add_comm 1 n]
  fun_induction literal q start pos input with
  | case1 =>
    cases h
    exact .inl ⟨rfl, by simp [AreLegible]⟩
  | case2 =>
    cases h
    exact .inl ⟨rfl, List.forall_mem_singleton.mpr backslash_legible⟩
  | case3 pos d tail hd ih =>
    have hd' := areLegible_escaped hq hd
    exact keep backslash_legible (keep hd' (ih (error_of_map_cons h)))
  | case4 pos d tail hd ih => exact keep backslash_legible (ih (error_of_map_cons h))
  | case5 => cases h
  | case6 pos c tail hb hc hshown ih => exact keep hshown (ih (error_of_map_cons h))
  | case7 pos c tail hb hc hshown =>
    cases h
    exact .inr ⟨0, c, .head (by simpa using hshown), rfl⟩

/-! ### Words -/

/-- Characters that make a word: a dollar sign in front is a token of its own, and so is a dot by
itself. -/
structure IsWord (word : List Char) : Prop where
  nonempty : word ≠ []
  chars : ∀ c ∈ word, isWordChar c = true ∧ isPrintable c = true
  dollar : word.head? ≠ some '$'
  dot : word ≠ ['.']

def EndsWord (behind : List Char) : Prop :=
  ∀ c ∈ behind.head?, isWordChar c = false

theorem endsWord_cons : EndsWord (c :: behind) ↔ isWordChar c = false := by
  simp [EndsWord]

theorem unprintable?_eq_none_iff {cs : List Char} :
    unprintable? pos cs = none ↔ ∀ c ∈ cs, isPrintable c = true := by
  induction cs generalizing pos with
  | nil => simp [unprintable?]
  | cons c cs ih =>
    rw [unprintable?, List.forall_mem_cons]
    split
    · next hc => rw [ih]; simp [hc]
    · next hc => simp [hc]

/-- What is found is the first character of a word that has no visible form. -/
theorem illegibleAt_of_unprintable? {word : List Char} {k : Nat}
    (hword : ∀ c ∈ word, isBlank c = false) (h : unprintable? pos word = some (k, c)) :
    ∃ n, IllegibleAt n c word ∧ k = pos + n := by
  induction word generalizing pos with
  | nil => cases h
  | cons d word ih =>
    obtain ⟨hd, hword⟩ := List.forall_mem_cons.mp hword
    rw [unprintable?] at h
    split at h
    · next hshown =>
      obtain ⟨n, hn, rfl⟩ := ih hword h
      exact ⟨n + 1, hn.cons (by simp [hshown]), by omega⟩
    · next hshown =>
      cases h
      exact ⟨0, .head (by simpa [hd] using hshown), rfl⟩

theorem IsWord.isWordChar {word : List Char} (h : IsWord word) :
    ∀ c ∈ word, Token.isWordChar c = true :=
  fun c hc => (h.chars c hc).1

theorem endsWord_dropWhile (input : List Char) : EndsWord (input.dropWhile isWordChar) :=
  Cut.head_dropWhile isWordChar input

theorem of_isWordChar (hc : isWordChar c = true) :
    isBlank c = false ∧ isQuote c = false ∧ (isSingle c = true → c = '$') := by
  simp only [isWordChar, endsWord, Bool.not_eq_true', Bool.or_eq_false_iff] at hc
  obtain ⟨hblank, ⟨⟨hopen, hclose⟩, hequals⟩, hquote⟩ := hc
  simp only [isSingle, hopen, hclose, hequals, Bool.false_or, beq_iff_eq]
  exact ⟨hblank, hquote, id⟩

theorem isWordChar_of_not (hblank : isBlank c = false) (hquote : isQuote c = false)
    (hsingle : isSingle c = false) : isWordChar c = true := by
  simp only [isSingle, Bool.or_eq_false_iff] at hsingle
  simp [isWordChar, endsWord, hblank, hquote, hsingle]

/-! ### Spans -/

/-- Characters that are a token in front of `behind`, and its kind and text. Identifiers and signs
have the characters themselves as their text, keywords have them in lower case, and literals have
what they spell. -/
inductive IsSpan (behind : List Char) : List Char → Kind → List Char → Prop where
  | identifier {word : List Char} : IsWord word → EndsWord behind →
      String.ofList (Text.lowerWord word) ∉ keywords → IsSpan behind word .identifier word
  | keyword {word : List Char} : IsWord word → EndsWord behind →
      String.ofList (Text.lowerWord word) ∈ keywords →
      IsSpan behind word .keyword (Text.lowerWord word)
  | sign {c : Char} : isSingle c = true → IsSpan behind [c] .punctuation [c]
  | dot : EndsWord behind → IsSpan behind ['.'] .punctuation ['.']
  | literal {q : Char} {body text : List Char} : isQuote q = true → Unescapes q body text →
      IsSpan behind (q :: (body ++ [q])) .literal text

theorem of_isSingle (hc : isSingle c = true) :
    isPrintable c = true ∧ isBlank c = false ∧ isQuote c = false := by
  simp only [isSingle, Bool.or_eq_true, beq_iff_eq] at hc
  rcases hc with ((rfl | rfl) | rfl) | rfl <;> decide

section Span

variable {source text : List Char} {kind : Kind}

theorem IsSpan.exists_cons (h : IsSpan behind source kind text) :
    ∃ c cs, source = c :: cs ∧ isBlank c = false := by
  cases h with
  | identifier hword | keyword hword =>
    obtain ⟨c, cs, rfl⟩ := List.exists_cons_of_ne_nil hword.nonempty
    exact ⟨c, cs, rfl, (of_isWordChar (hword.chars c (by simp)).1).1⟩
  | sign hc => exact ⟨_, _, rfl, (of_isSingle hc).2.1⟩
  | dot => exact ⟨_, _, rfl, by decide⟩
  | literal hq => exact ⟨_, _, rfl, (of_isQuote hq).2.1⟩

theorem IsSpan.ofList (h : IsSpan behind source kind text) :
    IsSpan behind source kind (String.ofList text).toList := by
  rwa [String.toList_ofList]

theorem IsSpan.kind_ne (h : IsSpan behind source kind text) : kind ≠ .endOfInput := by
  cases h <;> intro hkind <;> cases hkind

theorem IsSpan.areLegible (h : IsSpan behind source kind text) : AreLegible source := by
  cases h with
  | identifier hword | keyword hword =>
    exact areLegible_of_printable fun c hc => (hword.chars c hc).2
  | sign hc => exact areLegible_of_printable (by simpa using (of_isSingle hc).1)
  | dot => exact areLegible_of_printable (List.forall_mem_singleton.mpr (by decide))
  | literal hq hbody =>
    have hquote := (of_isQuote hq).1
    have hclose : AreLegible [_] := areLegible_of_printable (by simpa using hquote)
    refine areLegible_cons.mpr ⟨by simp [hquote], ?_⟩
    exact areLegible_append.mpr ⟨(hbody.areLegible hq).1, hclose⟩

theorem IsSpan.areLegible_text (h : IsSpan behind source kind text)
    (hkind : kind = .identifier ∨ kind = .literal) : AreLegible text := by
  cases h with
  | identifier hword => exact areLegible_of_printable fun c hc => (hword.chars c hc).2
  | literal hq hbody => exact (hbody.areLegible hq).2
  | keyword | sign | dot => rcases hkind with hkind | hkind <;> cases hkind

theorem step_of_isWord {word : List Char} (hword : IsWord word) (hbehind : EndsWord behind) :
    step pos (word ++ behind) = .emit (ofWord word pos) (pos + word.length) behind := by
  have htake := Cut.takeWhile_append hword.isWordChar hbehind
  have hdrop := Cut.dropWhile_append hword.isWordChar hbehind
  have hshown : unprintable? pos word = none :=
    unprintable?_eq_none_iff.mpr fun c hc => (hword.chars c hc).2
  have hstep : wordStep pos (word ++ behind) =
      .emit (ofWord word pos) (pos + word.length) behind := by
    simp only [wordStep, htake, hdrop, hshown]
  obtain ⟨c, cs, rfl⟩ := List.exists_cons_of_ne_nil hword.nonempty
  obtain ⟨hc, hprint⟩ := hword.chars c (by simp)
  obtain ⟨-, hquote, hsingle⟩ := of_isWordChar hc
  have hsingle : isSingle c = false := by
    apply Bool.eq_false_iff.mpr
    intro hs
    exact hword.dollar (by rw [hsingle hs]; rfl)
  -- a dot would have to stand by itself
  have hdot : ¬(c = '.' ∧ ((cs ++ behind).head?.all fun d => !isWordChar d) = true) := by
    rintro ⟨rfl, halone⟩
    cases cs with
    | nil => exact hword.dot rfl
    | cons d ds => simp [(hword.chars d (by simp)).1] at halone
  rw [List.cons_append] at hstep ⊢
  rw [step, if_neg (by simp [hprint]), if_neg (by simp [hquote]), if_neg (by simp [hsingle]),
    if_neg hdot]
  exact hstep

/-- A span at the start of the input is the token that a step yields. -/
theorem step_of_isSpan (pos : Nat) (h : IsSpan behind source kind text) :
    step pos (source ++ behind) =
      .emit ⟨kind, String.ofList text, pos⟩ (pos + source.length) behind := by
  cases h with
  | identifier hword hbehind hreserved =>
    rw [step_of_isWord hword hbehind, ofWord]
    simp only [if_neg hreserved]
  | keyword hword hbehind hreserved =>
    rw [step_of_isWord hword hbehind, ofWord]
    simp only [if_pos hreserved]
  | @sign c hc =>
    show step pos (c :: behind) = _
    rw [step, if_neg (by simp [(of_isSingle hc).1]),
      if_neg (by simp [(of_isSingle hc).2.2]), if_pos hc]
    rfl
  | dot hbehind =>
    have halone : (behind.head?.all fun d => !isWordChar d) = true := by
      cases behind with
      | nil => rfl
      | cons d ds => simpa using hbehind d rfl
    show step pos ('.' :: behind) = _
    rw [step, if_neg (by decide), if_neg (by decide), if_neg (by decide), if_pos ⟨rfl, halone⟩]
    rfl
  | @literal q body text hq hbody =>
    have hinput : q :: (body ++ [q]) ++ behind = q :: (body ++ q :: behind) := by simp
    rw [hinput, step, if_neg (by simp [(of_isQuote hq).1]), if_pos hq,
      literal_of_unescapes (of_isQuote hq).2.2 hbody]
    simp only [List.length_cons, List.length_append, List.length_nil]
    congr 1
    omega

end Span

/-! ### What a step comes to -/

theorem isWord_takeWhile (hblank : isBlank c = false) (hquote : isQuote c = false)
    (hsingle : isSingle c = false)
    (hdot : ¬(c = '.' ∧ (input.head?.all fun d => !isWordChar d) = true))
    (hshown : ∀ d ∈ (c :: input).takeWhile isWordChar, isPrintable d = true) :
    IsWord ((c :: input).takeWhile isWordChar) := by
  have hword := isWordChar_of_not hblank hquote hsingle
  constructor
  · simp [hword]
  · intro d hd
    exact ⟨List.mem_takeWhile_imp hd, hshown d hd⟩
  · have hdollar : c ≠ '$' := by
      rintro rfl
      exact absurd hsingle (by decide)
    simpa [hword] using hdollar
  · -- a dot by itself would be a sign
    intro heq
    rw [List.takeWhile_cons, if_pos hword] at heq
    obtain ⟨rfl, htail⟩ := List.cons.inj heq
    refine hdot ⟨rfl, ?_⟩
    cases input with
    | nil => rfl
    | cons d ds =>
      rw [List.takeWhile_cons] at htail
      split at htail
      · cases htail
      · next hd => simpa using hd

/-- The input does not start with a blank. -/
def IsTrimmed (input : List Char) : Prop :=
  ∀ c ∈ input.head?, isBlank c = false

theorem isTrimmed_dropWhile (input : List Char) : IsTrimmed (input.dropWhile isBlank) :=
  Cut.head_dropWhile isBlank input

/-- What remains of an input that starts with a quote does not close the literal. -/
def StaysOpen (q : Char) (tail : List Char) : Prop :=
  ∀ body text rest, Unescapes q body text → tail ≠ body ++ q :: rest

/-- What a step comes to, by what the input starts with. -/
inductive StepOutcome (pos : Nat) (input : List Char) : Step → Prop where
  | done : input = [] → StepOutcome pos input (.done pos)
  | emit {source text rest : List Char} {kind : Kind} : input = source ++ rest →
      IsSpan rest source kind text →
      StepOutcome pos input (.emit ⟨kind, String.ofList text, pos⟩ (pos + source.length) rest)
  | illegible {n : Nat} {d : Char} {cause : LexError.Cause} : IllegibleAt n d input →
      cause = .unrecognised d ∨ cause = .unrecognisedInLiteral d →
      StepOutcome pos input (.fail ⟨cause, pos + n⟩)
  | unclosed {q : Char} {tail : List Char} : input = q :: tail → isQuote q = true →
      AreLegible tail → StaysOpen q tail →
      StepOutcome pos input (.fail ⟨.unterminatedLiteral, pos⟩)

theorem literal_outcome (hquote : isQuote q = true) :
    StepOutcome pos (q :: input) (match literal q pos (pos + 1) input with
      | .error e => .fail e
      | .ok l => .emit ⟨.literal, String.ofList l.text, pos⟩ l.next l.rest) := by
  have hshown : (isPrintable q || isBlank q) = true := by simp [(of_isQuote hquote).1]
  cases hl : literal q pos (pos + 1) input with
  | error e =>
    obtain ⟨rfl, hall⟩ | ⟨n, d, hd, rfl⟩ := literal_error hquote hl
    · -- If a reading of the text ended in the quote, the scan would have found it.
      refine .unclosed rfl hquote hall ?_
      intro body text rest hbody htail
      rw [htail, literal_of_unescapes (of_isQuote hquote).2.2 hbody] at hl
      cases hl
    · have hposition : pos + 1 + n = pos + (n + 1) := by omega
      rw [hposition]
      exact .illegible (hd.cons hshown) (.inr rfl)
  | ok l =>
    obtain ⟨body, hinput, htext, hnext⟩ := unescapes_of_literal hl
    have hlength : l.next = pos + (q :: (body ++ [q])).length := by
      rw [hnext]
      simp only [List.length_cons, List.length_append, List.length_nil]
      omega
    dsimp only
    rw [hlength]
    exact .emit (by simp [hinput]) (.literal hquote htext)

theorem word_outcome (hblank : isBlank c = false) (hquote : isQuote c = false)
    (hsingle : isSingle c = false)
    (hdot : ¬(c = '.' ∧ (input.head?.all fun d => !isWordChar d) = true)) :
    StepOutcome pos (c :: input) (wordStep pos (c :: input)) := by
  have hparts : (c :: input).takeWhile isWordChar ++ (c :: input).dropWhile isWordChar =
      c :: input := List.takeWhile_append_dropWhile
  have hchars : ∀ d ∈ (c :: input).takeWhile isWordChar, isBlank d = false :=
    fun d hd => (of_isWordChar (List.mem_takeWhile_imp hd)).1
  rw [wordStep]
  -- A word ends before a blank, so a character of it that cannot be printed is not legible at all.
  cases hfound : unprintable? pos ((c :: input).takeWhile isWordChar) with
  | some found =>
    obtain ⟨k, d⟩ := found
    obtain ⟨n, hn, rfl⟩ := illegibleAt_of_unprintable? hchars hfound
    have happend := hn.append_right ((c :: input).dropWhile isWordChar)
    rw [hparts] at happend
    exact .illegible happend (.inl rfl)
  | none =>
    have hword := isWord_takeWhile hblank hquote hsingle hdot
      (unprintable?_eq_none_iff.mp hfound)
    have hbehind := endsWord_dropWhile (c :: input)
    dsimp only
    rw [ofWord]
    split
    · next hreserved => exact .emit hparts.symm (.keyword hword hbehind hreserved)
    · next hreserved => exact .emit hparts.symm (.identifier hword hbehind hreserved)

theorem step_outcome (pos : Nat) (hinput : IsTrimmed input) :
    StepOutcome pos input (step pos input) := by
  cases input with
  | nil => exact .done rfl
  | cons c input =>
  have hc : isBlank c = false := hinput c rfl
  rw [step]
  split
  · next hshown => exact .illegible (n := 0) (.head (by simpa [hc] using hshown)) (.inl rfl)
  split
  · next hquote => exact literal_outcome hquote
  next hquote =>
  split
  · next hsingle =>
    have hspan : IsSpan input [c] .punctuation [c] := .sign hsingle
    exact .emit rfl hspan
  next hsingle =>
  split
  · next hdot =>
    obtain ⟨rfl, halone⟩ := hdot
    have hbehind : EndsWord input := by
      intro d hd
      rw [Option.mem_def.mp hd] at halone
      simpa using halone
    have hspan : IsSpan input ['.'] .punctuation ['.'] := .dot hbehind
    exact .emit rfl hspan
  · next hdot => exact word_outcome hc (by simpa using hquote) (by simpa using hsingle) hdot

/-- A token comes from a span at the start of the input, and the scan goes on behind it. -/
theorem isSpan_of_step {t : Token} {next : Nat} (hinput : IsTrimmed input)
    (h : step pos input = .emit t next rest) :
    ∃ source, input = source ++ rest ∧ IsSpan rest source t.kind t.text.toList ∧
      t.position = pos ∧ next = pos + source.length := by
  have houtcome := step_outcome pos hinput
  rw [h] at houtcome
  cases houtcome with
  | emit hinput hspan => exact ⟨_, hinput, hspan.ofList, rfl, rfl⟩

end Coffer.Token
