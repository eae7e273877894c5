import Coffer.Proofs.Token.Scan

/-!
The scanner takes a text apart and leaves nothing out.

`Covers behind pos front ts` says that the characters `front` are blanks and the spans of the tokens
`ts`, with nothing but blanks between one span and the next. What is covered is scanned to just
those tokens (`Covers.scan`), and whatever a scan comes to, it has covered what stands in front of
that: the whole input, or what stands in front of a literal that is never closed; or else there is a
character that cannot be shown (`scan_outcome`).

Main statement: a text with a character that cannot be shown is refused at the first such character,
any other text with a literal that stays open is refused at its quote, and every other text is
covered by the tokens it is scanned to (`tokenize_partitions`).
-/

namespace Coffer.Token

open Text (isBlank isPrintable)

variable {pos : Nat} {input front behind rest gap source : List Char} {t : Token} {ts : List Token}
  {e : Option LexError}

/-! ### Covers -/

/-- From offset `pos` on and with `behind` following, the characters are blanks and the spans of the
tokens, in order. Each token has the offset of its span. -/
inductive Covers (behind : List Char) : Nat → List Char → List Token → Prop where
  | blanks {pos : Nat} {gap : List Char} : (∀ c ∈ gap, isBlank c = true) →
      Covers behind pos gap []
  | token {pos : Nat} {gap source front : List Char} {t : Token} {ts : List Token} :
      (∀ c ∈ gap, isBlank c = true) → t.position = pos + gap.length →
      IsSpan (front ++ behind) source t.kind t.text.toList →
      Covers behind (pos + gap.length + source.length) front ts →
      Covers behind pos (gap ++ (source ++ front)) (t :: ts)

/-- What is covered is scanned to its tokens, whatever the scan comes to behind it. -/
theorem Covers.scan (h : Covers behind pos front ts) :
    scan pos (front ++ behind) =
      (ts ++ (Token.scan (pos + front.length) behind).1,
        (Token.scan (pos + front.length) behind).2) := by
  induction h with
  | blanks hgap => exact scan_blanks hgap
  | @token pos gap source front t ts hgap hpos hspan _ ih =>
    have ht : (⟨t.kind, String.ofList t.text.toList, pos + gap.length⟩ : Token) = t := by
      rw [String.ofList_toList, ← hpos]
    have hlength : pos + (gap ++ (source ++ front)).length =
        pos + gap.length + source.length + front.length := by
      simp only [List.length_append]
      omega
    rw [List.append_assoc, scan_blanks hgap, List.append_assoc, scan_of_isSpan _ hspan, ih, ht,
      hlength]
    rfl

theorem Covers.areLegible (h : Covers behind pos front ts) : AreLegible front := by
  induction h with
  | blanks hgap => exact areLegible_of_blank hgap
  | token hgap _ hspan _ ih =>
    have hrest := areLegible_append.mpr ⟨hspan.areLegible, ih⟩
    exact areLegible_append.mpr ⟨areLegible_of_blank hgap, hrest⟩

theorem Covers.positions (h : Covers behind pos front ts) :
    (∀ t ∈ ts, pos ≤ t.position ∧ t.position < pos + front.length) ∧
      ts.Pairwise fun t u => t.position < u.position := by
  induction h with
  | blanks => simp
  | @token pos gap source front t ts _ hpos hspan _ ih =>
    obtain ⟨hbounds, hordered⟩ := ih
    obtain ⟨c, cs, rfl, -⟩ := hspan.exists_cons
    simp only [List.length_append, List.length_cons] at hbounds ⊢
    refine ⟨List.forall_mem_cons.mpr ⟨by omega, ?_⟩, List.pairwise_cons.mpr ⟨?_, hordered⟩⟩
    · intro u hu
      have := hbounds u hu
      omega
    · intro u hu
      have := hbounds u hu
      omega

theorem Covers.exists_isSpan (h : Covers behind pos front ts) {t : Token} (ht : t ∈ ts) :
    ∃ behind source, IsSpan behind source t.kind t.text.toList := by
  induction h with
  | blanks => cases ht
  | token _ _ hspan _ ih =>
    rcases List.mem_cons.mp ht with rfl | ht
    · exact ⟨_, _, hspan⟩
    · exact ih ht

/-! ### What a scan comes to -/

/-- What a scan of the input has yielded, and what stopped it: all of the input is covered, or it
has a character that cannot be shown, or what stands in front of a literal is covered that stays
open. -/
inductive Outcome (pos : Nat) (input : List Char) : List Token → Option LexError → Prop where
  | covered {ts : List Token} : Covers [] pos input ts →
      Outcome pos input (ts ++ [stop (pos + input.length)]) none
  | illegible {ts : List Token} {n : Nat} {c : Char} {e : LexError} : IllegibleAt n c input →
      e.position = pos + n → e.cause = .unrecognised c ∨ e.cause = .unrecognisedInLiteral c →
      Outcome pos input ts (some e)
  | unclosed {ts : List Token} {front tail : List Char} {q : Char} : input = front ++ q :: tail →
      Covers (q :: tail) pos front ts → isQuote q = true → AreLegible tail → StaysOpen q tail →
      Outcome pos input ts (some ⟨.unterminatedLiteral, pos + front.length⟩)

theorem Outcome.token (hgap : ∀ c ∈ gap, isBlank c = true) (hpos : t.position = pos + gap.length)
    (hspan : IsSpan rest source t.kind t.text.toList)
    (h : Outcome (pos + gap.length + source.length) rest ts e) :
    Outcome pos (gap ++ (source ++ rest)) (t :: ts) e := by
  -- The rest begins further on by what is put in front, and so does whatever is said of it.
  cases h with
  | @covered ts hcovers =>
    have hlength : pos + gap.length + source.length + rest.length =
        pos + (gap ++ (source ++ rest)).length := by
      simp only [List.length_append]
      omega
    rw [hlength]
    have hspan : IsSpan (rest ++ []) source t.kind t.text.toList := by rwa [List.append_nil]
    exact .covered (.token hgap hpos hspan hcovers)
  | illegible hc he hcause =>
    have hfront : AreLegible (gap ++ source) :=
      areLegible_append.mpr ⟨areLegible_of_blank hgap, hspan.areLegible⟩
    have hmoved := hc.append hfront
    rw [List.append_assoc] at hmoved
    refine .illegible hmoved ?_ hcause
    rw [he, List.length_append]
    omega
  | @unclosed _ front tail q hrest hcovers hq htail hopen =>
    subst hrest
    have hlength : pos + gap.length + source.length + front.length =
        pos + (gap ++ (source ++ front)).length := by
      simp only [List.length_append]
      omega
    rw [hlength]
    exact .unclosed (by simp) (.token hgap hpos hspan hcovers) hq htail hopen

theorem scan_outcome (pos : Nat) (input : List Char) :
    Outcome pos input (scan pos input).1 (scan pos input).2 := by
  have hblanks : ∀ (input : List Char), ∀ c ∈ input.takeWhile isBlank, isBlank c = true :=
    fun input c hc => List.mem_takeWhile_imp hc
  fun_induction scan pos input with
  | case1 pos input blanks last hstep =>
    -- Nothing is left but blanks.
    have houtcome := step_outcome (pos + blanks.length) (isTrimmed_dropWhile input)
    rw [hstep] at houtcome
    cases houtcome with
    | done hrest =>
      have hinput : input = blanks := by
        have hparts := List.takeWhile_append_dropWhile (p := isBlank) (l := input)
        rw [hrest, List.append_nil] at hparts
        exact hparts.symm
      have hcovers : Covers [] pos input [] := .blanks (hinput ▸ hblanks input)
      rw [← hinput]
      exact .covered hcovers
  | case2 pos input blanks e hstep =>
    -- The scan ends at what it complains about.
    have hparts : blanks ++ input.dropWhile isBlank = input := List.takeWhile_append_dropWhile
    have houtcome := step_outcome (pos + blanks.length) (isTrimmed_dropWhile input)
    rw [hstep] at houtcome
    cases houtcome with
    | illegible hd hcause =>
      have hmoved := hd.append (areLegible_of_blank (hblanks input))
      rw [hparts] at hmoved
      exact .illegible hmoved (Nat.add_assoc ..) hcause
    | unclosed hrest hq htail hopen =>
      exact .unclosed (hrest ▸ hparts).symm (.blanks (hblanks input)) hq htail hopen
  | case3 pos input blanks t next rest hstep hlt ts e hscan ih =>
    -- A token, and whatever comes of the rest.
    have hparts : blanks ++ input.dropWhile isBlank = input := List.takeWhile_append_dropWhile
    obtain ⟨source, hinput, hspan, hpos, rfl⟩ := isSpan_of_step (isTrimmed_dropWhile input) hstep
    rw [hscan] at ih
    rw [hinput] at hparts
    exact hparts ▸ Outcome.token (hblanks input) hpos hspan ih

/-! ### Texts -/

theorem covers_of_tokenize {text : String} (h : tokenize text = .ok ts) :
    ∃ us, ts = us ++ [stop text.length] ∧ Covers [] 0 text.toList us := by
  have houtcome := scan_outcome 0 text.toList
  rw [scan_of_tokenize h] at houtcome
  cases houtcome with
  | covered hcovers =>
    rw [Nat.zero_add, String.length_toList]
    exact ⟨_, rfl, hcovers⟩

theorem isLegible_of_tokenize {text : String} (h : tokenize text = .ok ts) {t : Token} (ht : t ∈ ts)
    (hvalue : t.isValue = true) : IsLegible t.text := by
  obtain ⟨us, rfl, hcovers⟩ := covers_of_tokenize h
  rcases List.mem_append.mp ht with ht | ht
  · obtain ⟨behind, source, hspan⟩ := hcovers.exists_isSpan ht
    exact hspan.areLegible_text (by simpa [isValue] using hvalue)
  · rw [List.mem_singleton] at ht
    rw [ht] at hvalue
    cases hvalue

/-- A literal of the text stays open: behind whole tokens and blanks its quote stands at offset
`start`, and nothing closes it. -/
def LeavesOpen (text : String) (start : Nat) : Prop :=
  ∃ front q tail ts, text.toList = front ++ q :: tail ∧ front.length = start ∧
    Covers (q :: tail) 0 front ts ∧ isQuote q = true ∧ StaysOpen q tail

theorem scan_of_staysOpen {q : Char} {tail : List Char} (hq : isQuote q = true)
    (htail : AreLegible tail) (hopen : StaysOpen q tail) :
    scan pos (q :: tail) = ([], some ⟨.unterminatedLiteral, pos⟩) := by
  obtain ⟨hprint, hblank, -⟩ := of_isQuote hq
  have hliteral : literal q pos (pos + 1) tail = .error ⟨.unterminatedLiteral, pos⟩ := by
    cases hl : literal q pos (pos + 1) tail with
    | ok l =>
      obtain ⟨body, hbody, htext, -⟩ := unescapes_of_literal hl
      exact absurd hbody (hopen _ _ _ htext)
    | error e =>
      rcases literal_error hq hl with ⟨rfl, -⟩ | ⟨n, c, hc, -⟩
      · rfl
      · exact absurd htail hc.not_areLegible
  apply scan_of_fail
  simp [hblank, step, hprint, hq, hliteral]

/-- A text is refused at the first character that cannot be shown. -/
theorem tokenize_of_illegibleAt {text : String} {n : Nat} {c : Char}
    (hc : IllegibleAt n c text.toList) :
    ∃ cause, tokenize text = .error ⟨cause, n⟩ ∧
      (cause = .unrecognised c ∨ cause = .unrecognisedInLiteral c) := by
  have houtcome := scan_outcome 0 text.toList
  rw [tokenize]
  generalize scan 0 text.toList = result at houtcome
  obtain ⟨us, e⟩ := result
  cases houtcome with
  | covered hcovers => exact absurd hcovers.areLegible hc.not_areLegible
  | unclosed hinput hcovers hq htail _ =>
    rw [hinput] at hc
    refine absurd (areLegible_append.mpr ⟨hcovers.areLegible, ?_⟩) hc.not_areLegible
    exact areLegible_cons.mpr ⟨by simp [(of_isQuote hq).1], htail⟩
  | @illegible _ m d err hd he hcause =>
    obtain ⟨rfl, rfl⟩ := hc.unique hd
    obtain ⟨cause, position⟩ := err
    exact ⟨cause, by simpa using he, hcause⟩

theorem tokenize_of_leavesOpen {text : String} {start : Nat} (hlegible : IsLegible text)
    (h : LeavesOpen text start) : tokenize text = .error ⟨.unterminatedLiteral, start⟩ := by
  obtain ⟨front, q, tail, ts, htext, rfl, hcovers, hq, hopen⟩ := h
  have htail : AreLegible tail := by
    have hall : AreLegible text.toList := hlegible
    rw [htext] at hall
    exact (areLegible_cons.mp (areLegible_append.mp hall).2).2
  rw [tokenize, htext, hcovers.scan, scan_of_staysOpen hq htail hopen, Nat.zero_add]

theorem tokenize_of_closed {text : String} (hlegible : IsLegible text)
    (hclosed : ∀ start, ¬LeavesOpen text start) : ∃ ts, tokenize text = .ok ts := by
  have houtcome := scan_outcome 0 text.toList
  rw [tokenize]
  generalize scan 0 text.toList = result at houtcome
  obtain ⟨us, e⟩ := result
  cases houtcome with
  | illegible hc _ _ => exact absurd hlegible hc.not_areLegible
  | unclosed hinput hcovers hq _ hopen =>
    exact absurd ⟨_, _, _, _, hinput, rfl, hcovers, hq, hopen⟩ (hclosed _)
  | covered hcovers => exact ⟨_, rfl⟩

/-- **The scanner takes a text apart and leaves nothing out.** A text with a character that has no
visible form and is no blank is refused at the first such character. Any other text with a literal
that is still open at the end is refused at that literal's quote. Every other text is covered by the
spans of its tokens, with only blanks between them and the sentinel behind its last character; so
the tokens stand in the order of their offsets. -/
theorem tokenize_partitions (text : String) :
    (∀ front c tail, text.toList = front ++ c :: tail → AreLegible front →
      (isPrintable c || isBlank c) = false →
      ∃ cause, tokenize text = .error ⟨cause, front.length⟩ ∧
        (cause = .unrecognised c ∨ cause = .unrecognisedInLiteral c)) ∧
    (IsLegible text → ∀ start, LeavesOpen text start →
      tokenize text = .error ⟨.unterminatedLiteral, start⟩) ∧
    (IsLegible text → (∀ start, ¬LeavesOpen text start) →
      ∃ ts, tokenize text = .ok (ts ++ [stop text.length]) ∧ Covers [] 0 text.toList ts ∧
        (ts ++ [stop text.length]).Pairwise fun t u => t.position < u.position) := by
  refine ⟨?_, ?_, ?_⟩
  · intro front c tail htext hfront hc
    exact tokenize_of_illegibleAt ⟨front, tail, htext, rfl, hfront, hc⟩
  · intro hlegible start hopens
    exact tokenize_of_leavesOpen hlegible hopens
  · intro hlegible hclosed
    obtain ⟨us, hus⟩ := tokenize_of_closed hlegible hclosed
    obtain ⟨ts, rfl, hcovers⟩ := covers_of_tokenize hus
    obtain ⟨hbounds, hordered⟩ := hcovers.positions
    rw [Nat.zero_add, String.length_toList] at hbounds
    refine ⟨ts, hus, hcovers, List.pairwise_append.mpr ⟨hordered, by simp, ?_⟩⟩
    intro t ht u hu
    rw [List.mem_singleton] at hu
    rw [hu]
    exact (hbounds t ht).2

/-- A bell is refused, and so is a quote that nothing closes. With an escaped quote in it, the
literal closes and the text is covered. -/
theorem tokenize_partitions_say :
    (∃ cause, tokenize "say \x07" = .error ⟨cause, 4⟩) ∧
    LeavesOpen "say 'it" 4 ∧ tokenize "say 'it" = .error ⟨.unterminatedLiteral, 4⟩ ∧
    (∀ start, ¬LeavesOpen "say 'it\\'s'" start) ∧
    ∃ ts, tokenize "say 'it\\'s'" = .ok (ts ++ [stop 11]) ∧
      Covers [] 0 "say 'it\\'s'".toList ts := by
  have hsay : IsBare "say" := by decide
  have hopens : LeavesOpen "say 'it" 4 := by
    refine ⟨['s', 'a', 'y', ' '], '\'', ['i', 't'], [⟨.identifier, "say", 0⟩], rfl, rfl, ?_, rfl,
      ?_⟩
    · have hblank : EndsWord [' ', '\'', 'i', 't'] := endsWord_cons.mpr (by decide)
      have hspan : IsSpan ([' '] ++ ['\'', 'i', 't']) ['s', 'a', 'y'] .identifier ['s', 'a', 'y'] :=
        isSpan_bare hsay hblank
      have hgap : ∀ c ∈ [' '], isBlank c = true := List.forall_mem_singleton.mpr (by decide)
      have hcovers : Covers ['\'', 'i', 't'] 0 ([] ++ (['s', 'a', 'y'] ++ [' ']))
          [⟨.identifier, "say", 0⟩] :=
        .token (by simp) rfl hspan (.blanks hgap)
      exact hcovers
    · intro body text rest hbody heq
      have hread : literal '\'' 0 0 (body ++ '\'' :: rest) = _ :=
        literal_of_unescapes (by decide) hbody
      rw [← heq] at hread
      cases hread
  have htokens : tokenize "say 'it\\'s'" =
      .ok [⟨.identifier, "say", 0⟩, ⟨.literal, "it's", 4⟩, .stop 11] := by decide +kernel
  have hclosed : ∀ start, ¬LeavesOpen "say 'it\\'s'" start := by
    intro start h
    have herror := (tokenize_partitions _).2.1 (by decide) start h
    rw [htokens] at herror
    cases herror
  obtain ⟨cause, hbell, -⟩ := (tokenize_partitions "say \x07").1 ['s', 'a', 'y', ' '] '\x07' []
    rfl (by decide) (by decide)
  obtain ⟨ts, hts, hcovers, -⟩ := (tokenize_partitions "say 'it\\'s'").2.2 (by decide) hclosed
  exact ⟨⟨cause, hbell⟩, hopens, (tokenize_partitions _).2.1 (by decide) 4 hopens, hclosed, ts, hts,
    hcovers⟩

end Coffer.Token
