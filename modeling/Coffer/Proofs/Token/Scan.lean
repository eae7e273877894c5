import Coffer.Proofs.Token.Span
import Coffer.Token.Quote
import Mathlib.Data.List.Forall2

/-!
What the scanner makes of a text, piece by piece. One equation for each outcome of a step; then what
it makes of a blank and of a span, and so of a quoted text, of a bare word and of a sign, whatever
stands behind them. Offsets do not matter for any of this: a scan that starts later yields the same
tokens, all moved.
-/

namespace Coffer.Token

open Text (isBlank isPrintable)

variable {pos k : Nat} {input rest : List Char}

/-! ### One step of the scan -/

theorem scan_of_done {stopAt : Nat}
    (h : step (pos + (input.takeWhile isBlank).length) (input.dropWhile isBlank) = .done stopAt) :
    scan pos input = ([stop stopAt], none) := by
  rw [scan]
  split <;> rename_i heq <;> rw [h] at heq <;> cases heq
  rfl

theorem scan_of_fail {e : LexError}
    (h : step (pos + (input.takeWhile isBlank).length) (input.dropWhile isBlank) = .fail e) :
    scan pos input = ([], some e) := by
  rw [scan]
  split <;> rename_i heq <;> rw [h] at heq <;> cases heq
  rfl

theorem scan_of_emit {t : Token} {next : Nat}
    (h : step (pos + (input.takeWhile isBlank).length) (input.dropWhile isBlank) =
      .emit t next rest) :
    scan pos input = (t :: (scan next rest).1, (scan next rest).2) := by
  rw [scan]
  split <;> rename_i heq <;> rw [h] at heq <;> cases heq
  rfl

/-- An input whose first character is no blank is stepped on as it is. -/
theorem scan_of_step {c : Char} {t : Token} {next : Nat} (hc : isBlank c = false)
    (h : step pos (c :: input) = .emit t next rest) :
    scan pos (c :: input) = (t :: (scan next rest).1, (scan next rest).2) := by
  apply scan_of_emit
  simpa [List.takeWhile_cons, List.dropWhile_cons, hc] using h

theorem scan_nil : scan pos [] = ([stop pos], none) :=
  scan_of_done rfl

theorem scan_blank {c : Char} (hc : isBlank c = true) :
    scan pos (c :: input) = scan (pos + 1) input := by
  have hlength : pos + ((c :: input).takeWhile isBlank).length =
      pos + 1 + (input.takeWhile isBlank).length := by
    simp only [List.takeWhile_cons, hc, if_true, List.length_cons]
    omega
  have hrest : (c :: input).dropWhile isBlank = input.dropWhile isBlank := by
    simp only [List.dropWhile_cons, hc, if_true]
  rcases hstep : step (pos + 1 + (input.takeWhile isBlank).length) (input.dropWhile isBlank) with
    _ | _ | _
  · rw [scan_of_done hstep, scan_of_done (by rwa [hlength, hrest])]
  · rw [scan_of_fail hstep, scan_of_fail (by rwa [hlength, hrest])]
  · rw [scan_of_emit hstep, scan_of_emit (by rwa [hlength, hrest])]

theorem scan_blanks {gap : List Char} (hgap : ∀ c ∈ gap, isBlank c = true) :
    scan pos (gap ++ input) = scan (pos + gap.length) input := by
  induction gap generalizing pos with
  | nil => rfl
  | cons c gap ih =>
    rw [List.forall_mem_cons] at hgap
    rw [List.cons_append, scan_blank hgap.1, ih hgap.2, List.length_cons, Nat.add_assoc,
      Nat.add_comm 1]

theorem scan_of_isSpan {source text : List Char} {kind : Kind} (pos : Nat)
    (h : IsSpan rest source kind text) :
    scan pos (source ++ rest) =
      (⟨kind, String.ofList text, pos⟩ :: (scan (pos + source.length) rest).1,
        (scan (pos + source.length) rest).2) := by
  have hstep := step_of_isSpan pos h
  obtain ⟨c, cs, rfl, hc⟩ := h.exists_cons
  exact scan_of_step hc hstep

/-! ### Offsets -/

def moved (k : Nat) (t : Token) : Token :=
  { t with position := t.position + k }

@[simp] theorem kind_moved (k : Nat) (t : Token) : (t.moved k).kind = t.kind := rfl

@[simp] theorem text_moved (k : Nat) (t : Token) : (t.moved k).text = t.text := rfl

def movedError (k : Nat) (e : LexError) : LexError :=
  { e with position := e.position + k }

/-- What reading a literal yields, `k` characters further on. -/
def movedLiteral (k : Nat) : Except LexError Literal → Except LexError Literal
  | .ok l => .ok { l with next := l.next + k }
  | .error e => .error (movedError k e)

def Step.moved (k : Nat) : Step → Step
  | .done pos => .done (pos + k)
  | .fail e => .fail (movedError k e)
  | .emit t pos rest => .emit (t.moved k) (pos + k) rest

theorem movedLiteral_map_cons (k : Nat) (c : Char) (x : Except LexError Literal) :
    movedLiteral k (x.map (.cons c)) = (movedLiteral k x).map (.cons c) := by
  cases x <;> rfl

theorem literal_add (k : Nat) (q : Char) (start pos : Nat) (input : List Char) :
    literal q (start + k) (pos + k) input = movedLiteral k (literal q start pos input) := by
  fun_induction literal q start pos input with
  | case1 => rfl
  | case2 => rfl
  | case3 pos d rest hd ih =>
    rw [literal_escaped hd, movedLiteral_map_cons, ← ih, Nat.add_right_comm]
  | case4 pos d rest hd ih =>
    rw [literal_backslash hd, movedLiteral_map_cons, ← ih, Nat.add_right_comm]
  | case5 pos rest hq =>
    rw [literal_close hq, Nat.add_right_comm]
    rfl
  | case6 pos c rest hb hq hc ih =>
    rw [literal_plain hb hq hc, movedLiteral_map_cons, ← ih, Nat.add_right_comm]
  | case7 pos c rest hb hq hc =>
    rw [literal_unrecognised hb hq hc]
    rfl

theorem unprintable?_add (k pos : Nat) (cs : List Char) :
    unprintable? (pos + k) cs = (unprintable? pos cs).map fun (p, c) => (p + k, c) := by
  induction cs generalizing pos with
  | nil => rfl
  | cons c cs ih =>
    simp only [unprintable?]
    split
    · rw [← ih, Nat.add_right_comm]
    · rfl

theorem ofWord_add (k pos : Nat) (word : List Char) :
    ofWord word (pos + k) = (ofWord word pos).moved k := by
  simp only [ofWord]
  split <;> rfl

theorem wordStep_add (k pos : Nat) (input : List Char) :
    wordStep (pos + k) input = (wordStep pos input).moved k := by
  simp only [wordStep, unprintable?_add]
  cases unprintable? pos (input.takeWhile isWordChar) with
  | some _ => rfl
  | none => simp only [Option.map_none, ofWord_add, Step.moved, Nat.add_right_comm]

theorem step_add (k pos : Nat) (input : List Char) :
    step (pos + k) input = (step pos input).moved k := by
  cases input with
  | nil => rfl
  | cons c cs =>
    simp only [step]
    split
    · rfl
    split
    · rw [Nat.add_right_comm, literal_add]
      cases literal c pos (pos + 1) cs <;> rfl
    split
    · simp only [Step.moved, moved, Nat.add_right_comm]
    split
    · simp only [Step.moved, moved, Nat.add_right_comm]
    · exact wordStep_add k pos (c :: cs)

/-- A scan that starts `k` characters further on yields the same, `k` characters further on. -/
theorem scan_add (k pos : Nat) (input : List Char) :
    scan (pos + k) input =
      ((scan pos input).1.map (moved k), (scan pos input).2.map (movedError k)) := by
  fun_induction scan pos input with
  | case1 pos input blanks next hstep =>
    apply scan_of_done
    rw [Nat.add_right_comm, step_add, hstep]
    rfl
  | case2 pos input blanks e hstep =>
    apply scan_of_fail
    rw [Nat.add_right_comm, step_add, hstep]
    rfl
  | case3 pos input blanks t next rest hstep hlt ts e hscan ih =>
    have hmoved : step (pos + k + (input.takeWhile isBlank).length) (input.dropWhile isBlank) =
        .emit (t.moved k) (next + k) rest := by
      rw [Nat.add_right_comm, step_add, hstep]
      rfl
    rw [scan_of_emit hmoved, ih, hscan]
    rfl

/-! ### Quoted texts -/

/-- A text of characters that have a visible form or are blank. Only such texts can be spelled. -/
def IsLegible (s : String) : Prop :=
  ∀ c ∈ s.toList, (isPrintable c || isBlank c) = true

instance (s : String) : Decidable (IsLegible s) :=
  decidable_of_iff (s.toList.all fun c => isPrintable c || isBlank c) List.all_eq_true

/-- Escaping is undone between the quotes of a literal. -/
theorem unescapes_escapeText {cs : List Char} (h : AreLegible cs) :
    Unescapes '\'' (escapeText cs) cs := by
  induction cs with
  | nil => exact .nil
  | cons c cs ih =>
    obtain ⟨hc, hcs⟩ := areLegible_cons.mp h
    rw [escapeText, List.flatMap_cons, ← escapeText, escapeChar]
    split
    · next hescape => exact .escaped hescape.symm (ih hcs)
    · next hescape =>
      rw [not_or] at hescape
      exact .plain hescape.1 hescape.2 hc (ih hcs)

theorem isSpan_quote {s : String} (h : IsLegible s) :
    IsSpan rest (quote s).toList .literal s.toList := by
  have htext : Unescapes '\'' (escapeText s.toList) s.toList := unescapes_escapeText h
  simpa [quote] using IsSpan.literal (by decide) htext

/-- A quoted text is read as a literal, whatever stands behind it. -/
theorem scan_quote {s : String} (h : IsLegible s) :
    ∃ next, scan pos ((quote s).toList ++ rest) =
      (⟨.literal, s, pos⟩ :: (scan next rest).1, (scan next rest).2) := by
  have hspan : IsSpan rest (quote s).toList .literal s.toList := isSpan_quote h
  have hscan := scan_of_isSpan pos hspan
  rw [String.ofList_toList] at hscan
  exact ⟨_, hscan⟩

/-! ### Words -/

/-- A text that is read as one identifier where it stands by itself. -/
structure IsBare (s : String) : Prop where
  nonempty : s ≠ ""
  chars : ∀ c ∈ s.toList, isWordChar c = true ∧ isPrintable c = true
  /-- A dollar sign in front is a token of its own, -/
  dollar : s.toList.head? ≠ some '$'
  /-- and so is a dot by itself. -/
  dot : s ≠ "."
  unreserved : String.ofList (Text.lowerWord s.toList) ∉ keywords

theorem isBare_iff (s : String) :
    IsBare s ↔ s ≠ "" ∧ (s.toList.all fun c => isWordChar c && isPrintable c) = true ∧
      s.toList.head? ≠ some '$' ∧ s ≠ "." ∧
      String.ofList (Text.lowerWord s.toList) ∉ keywords := by
  simp only [List.all_eq_true, Bool.and_eq_true]
  constructor
  · intro ⟨hnonempty, hchars, hdollar, hdot, hunreserved⟩
    exact ⟨hnonempty, hchars, hdollar, hdot, hunreserved⟩
  · intro ⟨hnonempty, hchars, hdollar, hdot, hunreserved⟩
    exact ⟨hnonempty, hchars, hdollar, hdot, hunreserved⟩

instance (s : String) : Decidable (IsBare s) :=
  decidable_of_iff _ (isBare_iff s).symm

theorem IsBare.isWord {s : String} (h : IsBare s) : IsWord s.toList where
  nonempty hs := h.nonempty (String.toList_eq_nil_iff.mp hs)
  chars := h.chars
  dollar := h.dollar
  dot hs := h.dot (String.toList_injective hs)

theorem isBare_of_isWord {word : List Char} (h : IsWord word)
    (hreserved : String.ofList (Text.lowerWord word) ∉ keywords) : IsBare (String.ofList word) := by
  have htext : (String.ofList word).toList = word := String.toList_ofList
  constructor
  · intro hs
    exact h.nonempty (by rw [← htext, hs]; rfl)
  · rw [htext]
    exact h.chars
  · rw [htext]
    exact h.dollar
  · intro hs
    exact h.dot (by rw [← htext, hs]; rfl)
  · rwa [htext]

/-- A bare text is an identifier, if no character of a word stands behind it. -/
theorem isSpan_bare {s : String} (h : IsBare s) (hrest : EndsWord rest) :
    IsSpan rest s.toList .identifier s.toList :=
  .identifier h.isWord hrest h.unreserved

/-! ### The tokens of a text, wherever it stands -/

theorem exists_isSpan_of_scan {t : Token} {ts : List Token} {e : Option LexError}
    (h : scan pos input = (t :: ts, e)) (ht : t.isStop = false) :
    ∃ source next rest, input.dropWhile isBlank = source ++ rest ∧
      IsSpan rest source t.kind t.text.toList ∧ scan next rest = (ts, e) := by
  cases hstep : step (pos + (input.takeWhile isBlank).length) (input.dropWhile isBlank) with
  | done last =>
    rw [scan_of_done hstep] at h
    cases h
    cases ht
  | fail e' =>
    rw [scan_of_fail hstep] at h
    cases h
  | emit u next rest =>
    rw [scan_of_emit hstep] at h
    obtain ⟨htokens, he⟩ := Prod.mk.inj h
    obtain ⟨rfl, hts⟩ := List.cons.inj htokens
    obtain ⟨source, hinput, hspan, -, -⟩ := isSpan_of_step (isTrimmed_dropWhile input) hstep
    exact ⟨source, next, rest, hinput, hspan, Prod.ext hts he⟩

theorem exists_stop_of_scan {ts : List Token} (h : scan pos input = (ts, none)) :
    ∃ front last, ts = front ++ [stop last] ∧ ∀ t ∈ front, t.isStop = false := by
  fun_induction scan pos input generalizing ts with
  | case1 pos input blanks last =>
    cases h
    exact ⟨[], last, rfl, by simp⟩
  | case2 => cases h
  | case3 pos input blanks t next rest hstep hlt us e hscan =>
    rename_i ih
    obtain ⟨rfl, rfl⟩ := Prod.mk.inj h
    obtain ⟨front, last, rfl, hfront⟩ := ih hscan
    obtain ⟨source, -, hspan, -, -⟩ := isSpan_of_step (isTrimmed_dropWhile input) hstep
    have ht : t.isStop = false := by simpa [isStop] using hspan.kind_ne
    exact ⟨t :: front, last, rfl, List.forall_mem_cons.mpr ⟨ht, hfront⟩⟩

theorem scan_of_tokenize {text : String} {ts : List Token} (h : Token.tokenize text = .ok ts) :
    scan 0 text.toList = (ts, none) := by
  rw [Token.tokenize] at h
  split at h
  · next hscan => cases h; exact hscan
  · cases h

theorem terminated_append_of_isStop {t : Token} (ht : t.isStop = true) (ts : List Token) :
    terminated (ts ++ [t]) = ts ++ [t] := by
  simp [terminated, ht]

/-- What the scanner yields needs no further sentinel. -/
theorem terminated_append_stop (ts : List Token) (last : Nat) :
    terminated (ts ++ [stop last]) = ts ++ [stop last] :=
  terminated_append_of_isStop rfl ts

/-- A bare word and a blank in front of a text are one more token, and move whatever the text comes
to. -/
theorem tokenize_word {word : String} (hword : IsBare word) (text : String) :
    Token.tokenize (word ++ " " ++ text) =
      match Token.tokenize text with
      | .ok ts => .ok (⟨.identifier, word, 0⟩ :: ts.map (moved (word.length + 1)))
      | .error e => .error (movedError (word.length + 1) e) := by
  have hinput : (word ++ " " ++ text).toList = word.toList ++ ' ' :: text.toList := by
    simp
  have hblank : EndsWord (' ' :: text.toList) := by
    intro c hc
    cases hc
    decide
  have hnext : 0 + word.toList.length + 1 = 0 + (word.length + 1) := by
    rw [String.length_toList, Nat.add_assoc]
  rw [Token.tokenize, Token.tokenize, hinput, scan_of_isSpan 0 (isSpan_bare hword hblank),
    scan_blank (by decide), hnext, scan_add, String.ofList_toList]
  rcases scan 0 text.toList with ⟨ts, _ | e⟩ <;> rfl

/-- What the grammars look at: all of a token but its offset. -/
def lexeme (t : Token) : Kind × String :=
  (t.kind, t.text)

/-- With `rest` behind them, the characters are read as tokens with these kinds and texts, at
whatever offset they stand. -/
def Reads (front : List Char) (ls : List (Kind × String)) (rest : List Char) : Prop :=
  ∀ pos, ∃ ts next, scan pos (front ++ rest) = (ts ++ (scan next rest).1, (scan next rest).2) ∧
    ts.map lexeme = ls

namespace Reads

theorem nil : Reads [] [] rest :=
  fun pos => ⟨[], pos, rfl, rfl⟩

theorem append {front back : List Char} {ls ls' : List (Kind × String)}
    (hfront : Reads front ls (back ++ rest)) (hback : Reads back ls' rest) :
    Reads (front ++ back) (ls ++ ls') rest := by
  intro pos
  obtain ⟨ts, next, hscan, hls⟩ := hfront pos
  obtain ⟨us, last, hscan', hls'⟩ := hback next
  refine ⟨ts ++ us, last, ?_, ?_⟩
  · rw [List.append_assoc, hscan, hscan', List.append_assoc]
  · rw [List.map_append, hls, hls']

theorem blanks {gap : List Char} (hgap : ∀ c ∈ gap, isBlank c = true) : Reads gap [] rest := by
  induction gap with
  | nil => exact nil
  | cons c gap ih =>
    rw [List.forall_mem_cons] at hgap
    intro pos
    rw [List.cons_append, scan_blank hgap.1]
    exact ih hgap.2 (pos + 1)

theorem span {source text : List Char} {kind : Kind} (h : IsSpan rest source kind text) :
    Reads source [(kind, String.ofList text)] rest :=
  fun pos => ⟨[_], _, scan_of_isSpan pos h, rfl⟩

theorem quote {s : String} (hs : IsLegible s) :
    Reads (Token.quote s).toList [(.literal, s)] rest := by
  have hspan : IsSpan rest (Token.quote s).toList .literal s.toList := isSpan_quote hs
  simpa using span hspan

theorem bare {s : String} (hs : IsBare s) (hrest : EndsWord rest) :
    Reads s.toList [(.identifier, s)] rest := by
  simpa using span (isSpan_bare hs hrest)

theorem equals : Reads ['='] [(.punctuation, "=")] rest :=
  span (.sign (by decide))

theorem tokenize {s : String} {ls : List (Kind × String)} (h : Reads s.toList ls []) :
    ∃ ts last, Token.tokenize s = .ok (ts ++ [stop last]) ∧ ts.map lexeme = ls := by
  obtain ⟨ts, last, hscan, hls⟩ := h 0
  rw [List.append_nil, scan_nil] at hscan
  refine ⟨ts, last, ?_, hls⟩
  rw [Token.tokenize, hscan]

end Reads

/-! ### Rows of pieces -/

/-- The piece is read as these tokens in front of anything that does not go on with a character of
a word. -/
def Writes (piece : String) (ls : List (Kind × String)) : Prop :=
  ∀ rest, (∀ c ∈ rest.head?, isWordChar c = false) → Reads piece.toList ls rest

theorem writes_quote {s : String} (hs : IsLegible s) : Writes (quote s) [(.literal, s)] :=
  fun _ _ => .quote hs

theorem writes_bare {s : String} (hs : IsBare s) : Writes s [(.identifier, s)] :=
  fun _ hrest => .bare hs hrest

theorem reads_intercalate {pieces : List String} {lss : List (List (Kind × String))}
    (h : List.Forall₂ Writes pieces lss) :
    Reads (String.intercalate " " pieces).toList lss.flatten [] := by
  rw [String.toList_intercalate]
  induction h with
  | nil => exact Reads.nil
  | @cons piece ls pieces lss hpiece h ih =>
    cases h with
    | nil =>
      have hread := hpiece [] (by simp)
      simpa [List.intercalate] using hread
    | @cons next ls' pieces lss hnext h =>
      have hblank : ∀ c ∈ [' '], isBlank c = true := List.forall_mem_singleton.mpr (by decide)
      have hrest := (Reads.blanks hblank).append ih
      have hread := (hpiece _ (by simp; decide)).append hrest
      simpa [List.intercalate] using hread

end Coffer.Token
