import Coffer.Proofs.Log.Assignment

/-!
Redaction is complete and touches nothing but values.

A `Division` of a text says which assignments are replaced and what stands between them. It is
leftmost if no assignment begins earlier than the ones that are named, where each is looked for behind
the end of the one before (`Division.IsLeftmost`). A text has exactly one leftmost division, and
redaction replaces the assignments of that one (`exists_division`, `Division.unique`).

The replacement takes away quotes and blanks and joins what stood on either side. Still nothing new
arises: whether an assignment begins in a gap is decided before the value that has been replaced, or
behind it (`silent_redacted`), and none begins within a word or its replacement. So every assignment
in the result is one whose value has been replaced (`of_begins_redacted`).

Main statement: `redact_complete`.
-/

namespace Coffer.Redact

open Text (isBlank isWord)

variable {before before' behind behind' gap cs : List Char} {p : Passage}

/-! ### Divisions -/

/-- An assignment begins at `cs`, with `before` in front of it. -/
def Begins (before cs : List Char) : Prop :=
  IsBoundary before ∧ ∃ (p : Passage) (rest : List Char), p.Stands rest ∧ cs = p.text ++ rest

/-- No assignment begins at any character of `gap`. -/
def Silent (before gap behind : List Char) : Prop :=
  ∀ front tail, gap = front ++ tail → tail ≠ [] → ¬ Begins (before ++ front) (tail ++ behind)

/-- A text with some of its assignments named. -/
inductive Division where
  | tail (cs : List Char)
  | found (gap : List Char) (p : Passage) (rest : Division)

namespace Division

def text : Division → List Char
  | .tail cs => cs
  | .found gap p rest => gap ++ (p.text ++ rest.text)

/-- The text with every value that is named replaced, and with it the sign and the blanks. -/
def redacted : Division → List Char
  | .tail cs => cs
  | .found gap p rest => gap ++ (p.word ++ (replacement ++ rest.redacted))

/-- The assignments that are named are those that come first, each behind the one before. -/
def IsLeftmost (before : List Char) : Division → Prop
  | .tail cs => Silent before cs []
  | .found gap p rest => Silent before gap (p.text ++ rest.text) ∧ IsBoundary (before ++ gap) ∧
      p.Stands rest.text ∧ rest.IsLeftmost (before ++ (gap ++ p.text))

/-- A division that begins one character earlier. -/
def push (c : Char) : Division → Division
  | .tail cs => .tail (c :: cs)
  | .found gap p rest => .found (c :: gap) p rest

end Division

theorem silent_nil : Silent before [] behind := by
  intro front tail heq hne
  exact absurd (List.append_eq_nil_iff.mp heq.symm).2 hne

theorem silent_cons {c : Char} : Silent before (c :: gap) behind ↔
    ¬ Begins before (c :: (gap ++ behind)) ∧ Silent (before ++ [c]) gap behind := by
  constructor
  · intro h
    refine ⟨?_, fun front tail heq hne => ?_⟩
    · have hfirst := h [] (c :: gap) rfl (by simp)
      rwa [List.append_nil] at hfirst
    · have hlater := h (c :: front) tail (by rw [heq, List.cons_append]) hne
      rwa [List.append_cons] at hlater
  · rintro ⟨hfirst, hlater⟩ front tail heq hne
    cases front with
    | nil =>
      rw [List.append_nil, ← List.nil_append tail, ← heq]
      exact hfirst
    | cons d front =>
      obtain ⟨rfl, rfl⟩ := List.cons.inj heq
      rw [List.append_cons]
      exact hlater front tail rfl hne

namespace Division

theorem text_push (c : Char) (d : Division) : (d.push c).text = c :: d.text := by
  cases d <;> rfl

theorem redacted_push (c : Char) (d : Division) : (d.push c).redacted = c :: d.redacted := by
  cases d <;> rfl

theorem IsLeftmost.push {c : Char} {d : Division} (h : d.IsLeftmost (before ++ [c]))
    (hc : ¬ Begins before (c :: d.text)) : (d.push c).IsLeftmost before := by
  cases d with
  | tail cs =>
    rw [text, ← List.append_nil cs] at hc
    exact silent_cons.mpr ⟨hc, h⟩
  | found gap p rest =>
    obtain ⟨hgap, hboundary, hp, hrest⟩ := h
    have hcons : ∀ tail, before ++ [c] ++ tail = before ++ c :: tail := by simp
    rw [hcons] at hboundary hrest
    exact ⟨silent_cons.mpr ⟨hc, hgap⟩, hboundary, hp, hrest⟩

end Division

def endsInWord (before : List Char) : Bool :=
  before.getLast?.any isWord

theorem endsInWord_eq_false_iff : endsInWord before = false ↔ IsBoundary before := by
  rw [endsInWord, IsBoundary]
  cases before.getLast? <;> simp

theorem endsInWord_append {last : Char} (h : cs.getLast? = some last) :
    endsInWord (before ++ cs) = isWord last := by
  rw [endsInWord, List.getLast?_append, h]
  rfl

theorem Passage.getLast?_text {last : Char} (h : p.value.getLast? = some last) :
    p.text.getLast? = some last := by
  rw [Passage.text, List.getLast?_append, List.getLast?_append, List.getLast?_cons,
    List.getLast?_append, h]
  rfl

theorem Passage.text_ne_nil : p.text ≠ [] := by
  simp [Passage.text]

/-- A character at which no assignment begins stays. -/
theorem redactFrom_cons {c : Char} (h : ¬ Begins before (c :: cs)) :
    redactFrom (endsInWord before) (c :: cs) =
      c :: redactFrom (endsInWord (before ++ [c])) cs := by
  have hlast : [c].getLast? = some c := rfl
  rw [redactFrom, endsInWord_append hlast]
  split
  · rfl
  · next hword =>
    split
    · rfl
    · next a ha =>
      obtain ⟨p, hp, hcs, -⟩ := assignment?_eq_some_iff.mp ha
      have hboundary : IsBoundary before := endsInWord_eq_false_iff.mp (by simpa using hword)
      exact absurd ⟨hboundary, p, a.rest, hp, hcs⟩ h

/-- Where an assignment begins, its value is replaced. -/
theorem redactFrom_stands {rest : List Char} (hboundary : IsBoundary before) (hp : p.Stands rest) :
    redactFrom (endsInWord before) (p.text ++ rest) =
      p.word ++ (replacement ++ redactFrom (endsInWord (before ++ p.text)) rest) := by
  obtain ⟨last, hlast⟩ := hp.value.exists_last
  obtain ⟨c, cs, hcs⟩ := List.exists_cons_of_ne_nil
    (List.append_ne_nil_of_left_ne_nil p.text_ne_nil rest)
  have hsome : assignment? (c :: cs) = some ⟨p.word, last, rest⟩ :=
    assignment?_eq_some_iff.mpr ⟨p, hp, hcs.symm, rfl, hlast⟩
  rw [hcs, redactFrom, endsInWord_eq_false_iff.mpr hboundary,
    endsInWord_append (p.getLast?_text hlast), if_neg Bool.false_ne_true]
  split
  · next hnone =>
    rw [hnone] at hsome
    cases hsome
  · next a ha =>
    rw [hsome] at ha
    cases ha
    rw [List.append_assoc]

/-- A gap in which no assignment begins stays. -/
theorem redactFrom_append (h : Silent before gap behind) :
    redactFrom (endsInWord before) (gap ++ behind) =
      gap ++ redactFrom (endsInWord (before ++ gap)) behind := by
  induction gap generalizing before with
  | nil => simp
  | cons c gap ih =>
    obtain ⟨hc, hgap⟩ := silent_cons.mp h
    rw [List.cons_append, redactFrom_cons hc, ih hgap, List.append_assoc]
    rfl

/-- Redaction replaces the assignments of a leftmost division. -/
theorem exists_division (before cs : List Char) : ∃ d : Division, d.text = cs ∧
    d.IsLeftmost before ∧ redactFrom (endsInWord before) cs = d.redacted := by
  by_cases hbegins : Begins before cs
  · obtain ⟨hboundary, p, rest, hp, rfl⟩ := hbegins
    have hlength : rest.length < (p.text ++ rest).length := by
      have hpos := List.length_pos_iff.mpr p.text_ne_nil
      rw [List.length_append]
      omega
    obtain ⟨d, rfl, hd, hredacted⟩ := exists_division (before ++ p.text) rest
    refine ⟨.found [] p d, rfl, ⟨silent_nil, ?_, hp, hd⟩, ?_⟩
    · rwa [List.append_nil]
    · rw [redactFrom_stands hboundary hp, hredacted]
      rfl
  · cases cs with
    | nil => exact ⟨.tail [], rfl, silent_nil, by rw [redactFrom]; rfl⟩
    | cons c cs =>
      obtain ⟨d, rfl, hd, hredacted⟩ := exists_division (before ++ [c]) cs
      refine ⟨d.push c, d.text_push c, hd.push hbegins, ?_⟩
      rw [redactFrom_cons hbegins, hredacted, d.redacted_push]
termination_by cs.length

/-! ### There is one leftmost division -/

theorem gap_unique {gap' : List Char} (h : Silent before gap behind)
    (h' : Silent before gap' behind') (hbegins : Begins (before ++ gap) behind)
    (hbegins' : Begins (before ++ gap') behind') (heq : gap ++ behind = gap' ++ behind') :
    gap = gap' := by
  rcases append_cases heq with ⟨later, rfl, rfl⟩ | ⟨mid, hmid, rfl, rfl⟩
  · by_cases hlater : later = []
    · rw [hlater, List.append_nil]
    · exact absurd hbegins (h' gap later rfl hlater)
  · exact absurd hbegins' (h gap' mid rfl hmid)

namespace Division

theorem IsLeftmost.begins {rest : Division} (h : (found gap p rest).IsLeftmost before) :
    Begins (before ++ gap) (p.text ++ rest.text) :=
  ⟨h.2.1, p, rest.text, h.2.2.1, rfl⟩

/-- No assignment is named if none is there to be found. -/
theorem IsLeftmost.ne_tail {rest : Division} (h : (found gap p rest).IsLeftmost before)
    (hcs : (tail cs).IsLeftmost before) : cs ≠ (found gap p rest).text := by
  intro heq
  have hne : p.text ++ rest.text ≠ [] := List.append_ne_nil_of_left_ne_nil p.text_ne_nil _
  apply hcs gap (p.text ++ rest.text) heq hne
  rw [List.append_nil]
  exact h.begins

theorem unique {d d' : Division} (h : d.IsLeftmost before) (h' : d'.IsLeftmost before)
    (heq : d.text = d'.text) : d = d' := by
  induction d generalizing before d' with
  | tail cs =>
    cases d' with
    | tail cs' => rw [show cs = cs' from heq]
    | found gap p rest => exact absurd heq (h'.ne_tail h)
  | found gap p rest ih =>
    cases d' with
    | tail cs => exact absurd heq.symm (h.ne_tail h')
    | found gap' p' rest' =>
      obtain rfl := gap_unique h.1 h'.1 h.begins h'.begins heq
      obtain ⟨rfl, hrest⟩ := h.2.2.1.unique h'.2.2.1 (List.append_cancel_left heq)
      rw [ih h.2.2.2 h'.2.2.2 hrest]

end Division

/-! ### Nothing new arises -/

/-- No word goes on from the one text into the other. -/
def IsApart (before cs : List Char) : Prop :=
  IsBoundary before ∨ ∀ c ∈ cs.head?, isBlank c = true

theorem isBoundary_append (hne : cs ≠ []) : IsBoundary (before ++ cs) ↔ IsBoundary cs := by
  obtain ⟨front, c, rfl⟩ := (List.eq_nil_or_concat' cs).resolve_left hne
  rw [IsBoundary, IsBoundary, ← List.append_assoc, List.getLast?_concat, List.getLast?_concat]

theorem not_opens_of_blank (h : ∀ c ∈ cs.head?, isBlank c = true) : ¬ Opens cs := by
  intro hopens
  obtain ⟨c, rest, rfl, hc⟩ := hopens.exists_cons
  have hletter : IsWordLetter c := by
    rcases hc with hp | hs
    · exact ⟨'p', by decide, hp⟩
    · exact ⟨'s', by decide, hs⟩
  have hblank := h c rfl
  rw [hletter.not_isBlank] at hblank
  cases hblank

theorem IsValue.isApart {value rest : List Char} (h : IsValue value rest) (before : List Char) :
    IsApart (before ++ value) rest := by
  rcases h with hquoted | hbare
  · left
    obtain ⟨q, hq, -, hlast⟩ := hquoted.exists_quote
    have hne : value ≠ [] := by
      rintro rfl
      cases hlast
    rw [isBoundary_append hne]
    intro c hc
    rw [hlast] at hc
    cases hc
    rcases hq with rfl | rfl <;> decide
  · exact .inr hbare.ends

theorem Passage.Stands.isApart {rest : List Char} (h : p.Stands rest) (before : List Char) :
    IsApart (before ++ p.text) rest := by
  have happly := h.value.isApart (before ++ (p.word ++ (p.left ++ p.sign :: p.right)))
  simpa only [Passage.text, List.append_assoc, List.cons_append] using happly

/-- Where an assignment opens, there is a boundary behind the one text as behind the other. -/
theorem IsApart.isBoundary {front tail : List Char} (h : IsApart before (front ++ tail))
    (hopens : Opens tail) (hboundary : IsBoundary (before' ++ front)) :
    IsBoundary (before ++ front) := by
  cases front with
  | nil =>
    rw [List.append_nil]
    refine h.resolve_right fun hblank => ?_
    exact not_opens_of_blank hblank hopens
  | cons c front =>
    rw [isBoundary_append (by simp)] at hboundary ⊢
    exact hboundary

theorem Silent.congr (h : Silent before gap behind) (hapart : IsApart before (gap ++ behind))
    (hopens : ∀ front tail, gap = front ++ tail → tail ≠ [] → Opens (tail ++ behind') →
      Opens (tail ++ behind)) (before' : List Char) : Silent before' gap behind' := by
  rintro front tail rfl hne ⟨hboundary, hbegins⟩
  have hopen : Opens (tail ++ behind) := hopens front tail rfl hne (opens_iff.mpr hbegins)
  rw [List.append_assoc] at hapart
  exact h front tail rfl hne ⟨hapart.isBoundary hopen hboundary, opens_iff.mp hopen⟩

/-- The end of a text stays silent, whatever stands in front of it. -/
theorem Silent.moved (h : Silent before cs []) (hapart : IsApart before cs) (before' : List Char) :
    Silent before' cs [] := by
  refine h.congr ?_ (fun _ _ _ _ hopens => hopens) before'
  rwa [List.append_nil]

/-- A gap stays silent when the value behind it is replaced. -/
theorem silent_redacted (h : Silent before gap (p.text ++ behind))
    (hboundary : IsBoundary (before ++ gap)) (hapart : IsApart before (gap ++ (p.text ++ behind)))
    (hword : Announces p.word) (before' behind' : List Char) :
    Silent before' gap (p.word ++ behind') := by
  refine h.congr hapart ?_ before'
  rintro front tail rfl hne hopens
  rw [← List.append_assoc, isBoundary_append hne] at hboundary
  rw [Passage.text, List.append_assoc]
  exact hopens.congr hboundary hne hword _

theorem not_opens_replacement {part : List Char} (hpart : ∀ c ∈ part, c ∈ replacement)
    (hne : part ≠ []) : ¬ Opens (part ++ behind) := by
  have hall : ∀ c ∈ replacement, ¬ (IsFormOf 'p' c ∨ IsFormOf 's' c) :=
    forall_mem_of_all (by decide)
  intro hopens
  obtain ⟨c, rest, heq, hc⟩ := hopens.exists_cons
  obtain ⟨d, part, rfl⟩ := List.exists_cons_of_ne_nil hne
  obtain ⟨rfl, -⟩ := List.cons.inj heq
  exact hall d (hpart d List.mem_cons_self) hc

/-- An assignment that begins anywhere in the result is one whose value has been replaced. -/
theorem of_begins_redacted {d : Division} (hd : d.IsLeftmost before) (hapart : IsApart before d.text)
    {before' front tail : List Char} (heq : d.redacted = front ++ tail)
    (hbegins : Begins (before' ++ front) tail) :
    ∃ word rest, Announces word ∧ tail = word ++ (replacement ++ rest) := by
  obtain ⟨hboundary, hpassage⟩ := hbegins
  have hopens : Opens tail := opens_iff.mpr hpassage
  induction d generalizing before before' front with
  | tail cs =>
    obtain rfl : cs = front ++ tail := heq
    obtain ⟨c, rest, rfl, -⟩ := hopens.exists_cons
    have hsilent : Silent before' (front ++ c :: rest) [] := Silent.moved hd hapart before'
    refine absurd ⟨hboundary, ?_⟩ (hsilent front (c :: rest) rfl (by simp))
    rw [List.append_nil]
    exact hpassage
  | found gap p rest ih =>
    obtain ⟨hgap, hend, hp, hrest⟩ := hd
    have hbehind : IsApart (before ++ (gap ++ p.text)) rest.text := by
      rw [← List.append_assoc]
      exact hp.isApart _
    rw [Division.redacted] at heq
    rcases append_cases heq with ⟨later, rfl, hcut⟩ | ⟨mid, hmid, rfl, rfl⟩
    · rcases append_cases hcut with ⟨later', rfl, hcut'⟩ | ⟨mid, -, hword, rfl⟩
      · rcases append_cases hcut' with ⟨later'', rfl, hcut''⟩ | ⟨mid, hmid, hpart, rfl⟩
        · -- behind the replacement
          have hseam : IsBoundary ((before' ++ (gap ++ (p.word ++ replacement))) ++ later'') := by
            simpa only [List.append_assoc] using hboundary
          exact ih hrest hbehind hcut'' hseam
        · refine absurd hopens (not_opens_replacement (fun d hd => ?_) hmid)
          rw [hpart]
          exact List.mem_append_right _ hd
      · by_cases hlater : later = []
        · rw [hlater, List.nil_append] at hword
          exact ⟨p.word, rest.redacted, hp.word, by rw [hword]⟩
        · have hannounces : Announces (later ++ mid) := hword ▸ hp.word
          rw [← List.append_assoc] at hboundary
          exact absurd hboundary (hannounces.not_isBoundary hlater _)
    · have hsilent := silent_redacted hgap hend hapart hp.word before' (replacement ++ rest.redacted)
      exact absurd ⟨hboundary, hpassage⟩ (hsilent front mid rfl hmid)

/-! ### Replaced values -/

/-- What is seen of a value that has been replaced. -/
def hidden : List Char :=
  "[REDACTED]".toList

/-- An assignment whose value has been replaced, with the characters that go on behind it. -/
def marked (word more : List Char) : Passage :=
  ⟨word, [], '=', [], hidden ++ more⟩

theorem hidden_ne_nil : hidden ≠ [] := by
  decide

theorem replacement_eq : replacement = '=' :: hidden := by
  decide

theorem text_marked (word behind : List Char) :
    (marked word (behind.takeWhile (!isBlank ·))).text ++ behind.dropWhile (!isBlank ·) =
      word ++ (replacement ++ behind) := by
  conv_rhs => rw [← List.takeWhile_append_dropWhile (p := (!isBlank ·)) (l := behind)]
  simp only [Passage.text, marked, replacement_eq, List.nil_append, List.cons_append,
    List.append_assoc]

/-- No quote begins a replaced value. -/
theorem hidden_append_ne {quoted more : List Char} (h : IsQuoted quoted) :
    hidden ++ more ≠ quoted ++ behind := by
  intro heq
  obtain ⟨q, hq, hhead, -⟩ := h.exists_quote
  have hbracket : (quoted ++ behind).head? = some '[' := by
    rw [← heq]
    rfl
  rw [List.head?_append, hhead] at hbracket
  cases hbracket
  simp at hq

/-- Read as a value, a replacement goes on up to the next blank. -/
theorem isBare_hidden (rest : List Char) :
    IsBare (hidden ++ rest.takeWhile (!isBlank ·)) (rest.dropWhile (!isBlank ·)) := by
  have hhidden : ∀ c ∈ hidden, isBlank c = false := forall_mem_of_all (by decide)
  refine ⟨List.append_ne_nil_of_left_ne_nil hidden_ne_nil _, ?_, isBlank_of_behind_run, ?_⟩
  · intro c hc
    rcases List.mem_append.mp hc with hc | hc
    · exact hhidden c hc
    · exact not_isBlank_of_mem_run c hc
  · intro quoted behind hquoted heq
    exact hidden_append_ne hquoted heq

theorem stands_marked {word : List Char} (hword : Announces word) (rest : List Char) :
    (marked word (rest.takeWhile (!isBlank ·))).Stands (rest.dropWhile (!isBlank ·)) :=
  ⟨hword, List.forall_mem_nil _, .inl rfl, List.forall_mem_nil _, .inr (isBare_hidden rest)⟩

/-- The text is divided at the assignments that are replaced. -/
structure Division.Divides (d : Division) (s : String) : Prop where
  text : d.text = s.toList
  isLeftmost : d.IsLeftmost []

theorem Division.Divides.unique {s : String} {d d' : Division} (h : d.Divides s)
    (h' : d'.Divides s) : d = d' :=
  Division.unique h.isLeftmost h'.isLeftmost (h.text.trans h'.text.symm)

theorem toList_redact {s : String} {d : Division} (h : d.Divides s) :
    (redact s).toList = d.redacted := by
  obtain ⟨d', htext, hleftmost, hredacted⟩ := exists_division [] s.toList
  rw [h.unique ⟨htext, hleftmost⟩, redact, String.toList_ofList]
  exact hredacted

theorem exists_divides (s : String) : ∃ d : Division, d.Divides s := by
  obtain ⟨d, htext, hleftmost, -⟩ := exists_division [] s.toList
  exact ⟨d, htext, hleftmost⟩

/-- Every assignment in the result has a replaced value, which may go on behind the replacement. -/
theorem eq_marked_of_stands {s : String} {p : Passage} {before rest : List Char}
    (hs : (redact s).toList = before ++ (p.text ++ rest)) (hbefore : IsBoundary before)
    (hp : p.Stands rest) : ∃ more, p = marked p.word more := by
  obtain ⟨d, hd⟩ := exists_divides s
  rw [toList_redact hd] at hs
  have hbegins : Begins ([] ++ before) (p.text ++ rest) := ⟨hbefore, p, rest, hp, rfl⟩
  have hapart : IsApart [] d.text := .inl (by simp [IsBoundary])
  obtain ⟨word, behind, hword, heq⟩ := of_begins_redacted hd.isLeftmost hapart hs hbegins
  rw [← text_marked] at heq
  obtain ⟨rfl, -⟩ := hp.unique (stands_marked hword behind) heq
  exact ⟨_, rfl⟩

/-- **Redaction is complete and touches nothing but assignments.** A text has exactly one leftmost
division, and the result is the text with the assignments of that division replaced; all else is as
it was. Wherever in the result an assignment can begin, its value begins with the replacement, so
none has been left out, and none has newly arisen. -/
theorem redact_complete (s : String) : ∃ d : Division, d.Divides s ∧
    (∀ d' : Division, d'.Divides s → d' = d) ∧ (redact s).toList = d.redacted ∧
    ∀ (before : List Char) (p : Passage) (rest : List Char),
      (redact s).toList = before ++ (p.text ++ rest) → IsBoundary before → p.Stands rest →
        "[REDACTED]".toList <+: p.value := by
  obtain ⟨d, hd⟩ := exists_divides s
  refine ⟨d, hd, fun d' hd' => hd'.unique hd, toList_redact hd, ?_⟩
  intro before p rest hs hbefore hp
  obtain ⟨more, hmore⟩ := eq_marked_of_stands hs hbefore hp
  rw [hmore]
  exact List.prefix_append _ _

/-- A quoted value goes, and what followed it directly now goes on with the replacement. -/
theorem redact_complete_joined :
    redact "pwd : 'a'b secret=x" = "pwd=[REDACTED]b secret=[REDACTED]" ∧
      "[REDACTED]".toList <+: (marked "pwd".toList ['b']).value := by
  have hredacted : redact "pwd : 'a'b secret=x" = "pwd=[REDACTED]b secret=[REDACTED]" := by
    decide +kernel
  obtain ⟨-, -, -, -, hvalues⟩ := redact_complete "pwd : 'a'b secret=x"
  refine ⟨hredacted, hvalues [] _ " secret=[REDACTED]".toList ?_ ?_ ?_⟩
  · rw [hredacted]
    decide +kernel
  · simp [IsBoundary]
  · have hword : Announces "pwd".toList := ⟨"pwd".toList, by decide, by decide⟩
    exact stands_marked hword "b secret=[REDACTED]".toList

end Coffer.Redact
