import Coffer.Proofs.Filter.Acceptance
import Coffer.Proofs.Pattern.Failure
import Mathlib.Data.List.Basic

/-!
How reading a filter fails. Nearly every failure is a complaint, about a character that starts no
token or about a token that cannot come next. The exception is a pattern that fails to be read in a
way that no complaint describes; such a failure goes through the reader as it is.

A pattern that a text has is only read if reading comes to it. `AwaitsPattern` says in terms of the
grammar where that is: behind tokens that end in `matches` and can go on, with some value, to a
filter. The reader is in a state that waits for a pattern exactly behind such tokens
(`awaitsPattern_iff`): it never takes a token that no filter can go on from.

Main statement: a filter is read, or refused with a complaint, exactly if no pattern that reading
comes to fails in such a way, which none does that has modest counts and flags, and every other
pattern that fails is complained about at its token (`parse_complains_iff`).
-/

namespace Coffer

def ReadError.IsComplaint : ReadError → Prop
  | .lex _ | .parse _ => True
  | _ => False

/-- A complaint that is not about a pattern. -/
def ParseError.Cause.IsGrammatical : ParseError.Cause → Prop
  | .invalidPattern .. => False
  | _ => True

theorem Token.isComplaint_patternFault (t : Token) (e : Pattern.Error) :
    (t.patternFault e).IsComplaint ↔ e.IsMalformed := by
  cases e <;> rfl

namespace Filter

/-! ### Steps -/

theorem Comparison.eq_of_ofWord?_error {word text : String} {e : Pattern.Error}
    (h : Comparison.ofWord? word text = some (.error e)) :
    word = "matches" ∧ Pattern.ofText text = .error e := by
  unfold Comparison.ofWord? at h
  split at h
  · cases h
  · cases h
  · refine ⟨rfl, ?_⟩
    cases hp : Pattern.ofText text with
    | ok p =>
      rw [hp] at h
      cases h
    | error f =>
      rw [hp] at h
      cases h
      rfl
  · cases h

def State.IsAtPattern (s : State) : Prop :=
  ∃ subject, s.expect = .value subject "matches"

/-- A token that is not taken is complained about, or it is a pattern that cannot be read. -/
theorem State.step_error {s : State} {t : Token} {x : ReadError} (h : s.step t = .error x) :
    (∃ cause, x = t.fault cause ∧ cause.IsGrammatical) ∨ s.IsAtPattern ∧ t.isValue = true ∧
      ∃ e, Pattern.ofText t.text = .error e ∧ x = t.patternFault e := by
  obtain ⟨level, outer, expect⟩ := s
  -- Only where a value is expected can the complaint be about what the value says.
  cases expect with
  | operand =>
    simp only [State.step] at h
    repeat' split at h
    all_goals cases h
    exact .inl ⟨_, rfl, trivial⟩
  | reference =>
    simp only [State.step] at h
    split at h
    all_goals cases h
    exact .inl ⟨_, rfl, trivial⟩
  | comparison subject =>
    simp only [State.step] at h
    split at h
    all_goals cases h
    exact .inl ⟨_, rfl, trivial⟩
  | value subject word =>
    simp only [State.step] at h
    split at h
    · next hvalue =>
      split at h
      · cases h
      · next e hword =>
        cases h
        obtain ⟨rfl, hpattern⟩ := Comparison.eq_of_ofWord?_error hword
        exact .inr ⟨⟨subject, rfl⟩, hvalue, e, hpattern, rfl⟩
      · cases h
        exact .inl ⟨_, rfl, trivial⟩
    · cases h
      exact .inl ⟨_, rfl, trivial⟩
  | after e =>
    simp only [State.step] at h
    repeat' split at h
    all_goals cases h
    all_goals exact .inl ⟨_, rfl, trivial⟩

theorem State.step_of_isAtPattern {s : State} {t : Token} {e : Pattern.Error} (hs : s.IsAtPattern)
    (ht : t.isValue = true) (he : Pattern.ofText t.text = .error e) :
    s.step t = .error (t.patternFault e) := by
  obtain ⟨subject, hexpect⟩ := hs
  simp only [State.step, hexpect, ht, if_true, Comparison.ofWord?, he, Except.map]

/-- Keywords and the sentinel are no values, no words and no symbols. -/
theorem not_operand_of_kind {t : Token} (h : t.kind = .keyword ∨ t.kind = .endOfInput) :
    t.isValue = false ∧ (∀ word, t.isWord word = false) ∧
      ∀ symbol, t.isPunctuation symbol = false := by
  rcases h with h | h <;> simp [Token.isValue, Token.isWord, Token.isPunctuation, h]

theorem State.isStop_of_step {s s' : State} {t : Token} (h : s.step t = .ok s') :
    t.isStop = false := by
  cases hstop : t.isStop with
  | false => rfl
  | true =>
    have hkind : t.kind = .endOfInput := by simpa [Token.isStop] using hstop
    obtain ⟨hvalue, hword, hsymbol⟩ := not_operand_of_kind (.inr hkind)
    have hkeyword : ∀ word, t.isKeyword word = false :=
      fun word => by simp [Token.isKeyword, hkind]
    obtain ⟨level, outer, expect⟩ := s
    cases expect with
    | operand => simp [State.step, hvalue, hsymbol] at h
    | reference => simp [State.step, hword] at h
    | comparison subject => simp [State.step, hkind] at h
    | value subject word => simp [State.step, hvalue] at h
    | after e => cases outer <;> simp [State.step, hkeyword, hsymbol] at h

theorem State.finish_error {s : State} {t : Token} {x : ReadError} (h : s.finish t = .error x) :
    ∃ cause, x = t.fault cause ∧ cause.IsGrammatical := by
  obtain ⟨level, outer, expect⟩ := s
  cases expect with
  | after e =>
    simp only [State.finish] at h
    split at h
    · cases h
    · cases h
      exact ⟨_, rfl, trivial⟩
  | _ =>
    cases h
    exact ⟨_, rfl, trivial⟩

/-! ### Runs -/

/-- Tokens that are taken lead to the state that has taken them, whatever follows. -/
theorem State.run_append {s' : State} {us : List Token} : ∀ (ts : List Token) {s : State},
    s.steps ts = .ok s' → s.run (ts ++ us) = s'.run us
  | [], s, h => by
    cases h
    rfl
  | t :: ts, s, h => by
    rw [State.steps] at h
    cases hstep : s.step t with
    | error x =>
      rw [hstep] at h
      cases h
    | ok s₁ =>
      rw [hstep] at h
      have ih : s₁.run (ts ++ us) = s'.run us := State.run_append ts h
      rw [List.cons_append, State.run, State.isStop_of_step hstep, hstep]
      exact ih

/-- The state does not take the token, which may be the sentinel. -/
def State.Refuses (s : State) (t : Token) (x : ReadError) : Prop :=
  if t.isStop then s.finish t = .error x else s.step t = .error x

theorem State.Refuses.cases {s : State} {t : Token} {x : ReadError} (h : s.Refuses t x) :
    (∃ cause, x = t.fault cause ∧ cause.IsGrammatical) ∨ s.IsAtPattern ∧ t.isValue = true ∧
      ∃ e, Pattern.ofText t.text = .error e ∧ x = t.patternFault e := by
  rw [State.Refuses] at h
  split at h
  · exact .inl (State.finish_error h)
  · exact State.step_error h

theorem State.Refuses.run {s : State} {t : Token} {x : ReadError} (h : s.Refuses t x)
    (ts : List Token) : s.run (t :: ts) = .error x := by
  rw [State.Refuses] at h
  rw [State.run]
  split at h
  · next hstop => rw [if_pos hstop, h]
  · next hstop =>
    rw [if_neg hstop, h]
    rfl

/-- A run up to a sentinel fails at one token, and has taken those before it. -/
theorem State.run_error {x : ReadError} {stop : Token} (hstop : stop.isStop = true) :
    ∀ (ts : List Token) {s : State}, s.run (ts ++ [stop]) = .error x →
      ∃ before t after s', ts ++ [stop] = before ++ t :: after ∧ s.steps before = .ok s' ∧
        s'.Refuses t x
  | [], s, h => by
    rw [List.nil_append, State.run, if_pos hstop] at h
    exact ⟨[], stop, [], s, rfl, rfl, by rwa [State.Refuses, if_pos hstop]⟩
  | t :: ts, s, h => by
    rw [List.cons_append, State.run] at h
    split at h
    · -- A sentinel ends the run, even if it is not the last token.
      next ht => exact ⟨[], t, ts ++ [stop], s, rfl, rfl, by rwa [State.Refuses, if_pos ht]⟩
    · next ht =>
      cases hstep : s.step t with
      | error y =>
        rw [hstep] at h
        cases h
        exact ⟨[], t, ts ++ [stop], s, rfl, rfl, by rwa [State.Refuses, if_neg ht]⟩
      | ok s₁ =>
        rw [hstep] at h
        obtain ⟨before, u, after, s', heq, hs', hrefuses⟩ := State.run_error hstop ts h
        refine ⟨t :: before, u, after, s', congrArg (t :: ·) heq, ?_, hrefuses⟩
        rw [State.steps, hstep]
        exact hs'

/-! ### Places for patterns -/

/-- A pattern comes next: the tokens end in `matches`, and can go on with a value to a filter. -/
def AwaitsPattern (ts : List Token) : Prop :=
  ∃ us o v rest, ts = us ++ [o] ∧ o.isKeyword "matches" = true ∧ Derives .expr (ts ++ v :: rest)

theorem State.isAtPattern_of_step {s s' : State} {o : Token} (h : s.step o = .ok s')
    (ho : o.isKeyword "matches" = true) : s'.IsAtPattern := by
  obtain ⟨hkind, htext⟩ := isKeyword_iff.mp ho
  -- The keyword is taken as a comparison only, since it is nothing else that a state takes.
  obtain ⟨hvalue, hword, hsymbol⟩ := not_operand_of_kind (.inl hkind)
  have hand : o.isKeyword "and" = false := by simp [Token.isKeyword, htext]
  have hor : o.isKeyword "or" = false := by simp [Token.isKeyword, htext]
  obtain ⟨level, outer, expect⟩ := s
  cases expect with
  | operand => simp [State.step, hvalue, hsymbol] at h
  | reference => simp [State.step, hword] at h
  | comparison subject =>
    simp only [State.step] at h
    split at h
    · cases h
      exact ⟨subject, by rw [htext]⟩
    · cases h
  | value subject word => simp [State.step, hvalue] at h
  | after e => cases outer <;> simp [State.step, hand, hor, hsymbol] at h

theorem exists_closing : ∀ (outer : List Level) (l : Level) (e : Filter),
    ∃ rest l' e', State.steps ⟨l, outer, .after e⟩ rest = .ok ⟨l', [], .after e'⟩
  | [], l, e => ⟨[], l, e, rfl⟩
  | l' :: outer, l, e => by
    obtain ⟨rest, l₁, e₁, hsteps⟩ := exists_closing outer l' (.group (l.close e))
    refine ⟨⟨.punctuation, ")", 0⟩ :: rest, l₁, e₁, ?_⟩
    rw [State.steps]
    exact hsteps

theorem exists_pattern : ∃ p, Pattern.ofText "a" = .ok p :=
  ⟨_, rfl⟩

/-- The reader waits for a pattern exactly where a filter can go on with one. -/
theorem awaitsPattern_iff {ts : List Token} :
    AwaitsPattern ts ↔ ∃ s, State.start.steps ts = .ok s ∧ s.IsAtPattern := by
  constructor
  · rintro ⟨us, o, v, rest, rfl, ho, hderives⟩
    obtain ⟨e, htree⟩ := derives_iff_exists_tree.mp hderives
    obtain ⟨l, last, hsteps, -⟩ := (htree.1.steps htree.2).1 []
    change State.start.steps _ = _ at hsteps
    -- What leads through all the tokens leads through those up to `matches`.
    rw [State.steps_append, State.steps_append] at hsteps
    cases hus : State.start.steps us with
    | error x =>
      rw [hus] at hsteps
      cases hsteps
    | ok s =>
      rw [State.steps_append_of_ok _ hus]
      rw [hus] at hsteps
      cases hstep : s.step o with
      | error x => simp [State.steps, hstep, Except.bind] at hsteps
      | ok s' =>
        refine ⟨s', ?_, State.isAtPattern_of_step hstep ho⟩
        simp [State.steps, hstep, Except.bind]
  · rintro ⟨⟨level, outer, expect⟩, hsteps, subject, rfl⟩
    have hreads := State.Reads.steps ts State.reads_start hsteps
    obtain ⟨os, ls, ps, hts, -, -, us, o, rfl, -, ho, -⟩ := hreads
    obtain ⟨p, hp⟩ := exists_pattern
    obtain ⟨rest, l', e, hclosing⟩ := exists_closing outer level (.atom ⟨subject, .fits p⟩)
    -- A short pattern and the closing parentheses make a filter of the tokens.
    have hall : State.start.steps (ts ++ ⟨.literal, "a", 0⟩ :: rest) = .ok ⟨l', [], .after e⟩ := by
      rw [State.steps_append_of_ok _ hsteps, State.steps]
      simp only [State.step, Token.isValue, Comparison.ofWord?, hp, Except.map, Except.bind]
      exact hclosing
    have hfinish : State.finish ⟨l', [], .after e⟩ (.stop 0) = .ok (l'.close e) := rfl
    have htree := (State.Reads.steps _ State.reads_start hall).finish hfinish
    rw [List.nil_append] at hts htree
    refine ⟨os ++ ls ++ us, o, _, rest, ?_, ho, derives_iff_exists_tree.mpr ⟨_, htree⟩⟩
    rw [hts, List.append_assoc _ us]

/-- Reading the tokens comes to the pattern `v`. -/
def MeetsPattern (ts : List Token) (v : Token) : Prop :=
  ∃ before after, ts = before ++ v :: after ∧ AwaitsPattern before ∧ v.isValue = true

/-! ### Tokens -/

theorem isStop_of_isValue {t : Token} (h : t.isValue = true) : t.isStop = false := by
  cases hkind : t.kind <;> simp_all [Token.isValue, Token.isStop]

theorem terminated_cases (ts : List Token) :
    Token.terminated ts = ts ∨ ∃ position, Token.terminated ts = ts ++ [.stop position] := by
  unfold Token.terminated
  cases hlast : ts.getLast? with
  | none => exact .inr ⟨0, by rw [List.getLast?_eq_none_iff.mp hlast]; rfl⟩
  | some t =>
    dsimp only
    split
    · exact .inl rfl
    · exact .inr ⟨_, rfl⟩

theorem State.Refuses.ofTokens {s : State} {before : List Token} {t : Token} {x : ReadError}
    (h : s.Refuses t x) (hsteps : State.start.steps before = .ok s) (after : List Token) :
    ofTokens (before ++ t :: after) = .error x := by
  have hrun : ∀ rest, State.start.run (before ++ t :: rest) = .error x := by
    intro rest
    calc State.start.run (before ++ t :: rest)
        = s.run (t :: rest) := State.run_append before hsteps
      _ = .error x := h.run rest
  rw [Filter.ofTokens]
  obtain heq | ⟨position, heq⟩ := terminated_cases (before ++ t :: after)
  · rw [heq, hrun]
  · rw [heq, List.append_assoc, List.cons_append, hrun]

theorem terminated_eq (ts : List Token) :
    ∃ us stop, stop.isStop = true ∧ Token.terminated ts = us ++ [stop] := by
  obtain rfl | ⟨us, t, rfl⟩ := List.eq_nil_or_concat ts
  · exact ⟨[], .stop 0, rfl, rfl⟩
  · rw [List.concat_eq_append]
    cases ht : t.isStop with
    | true => exact ⟨us, t, ht, by simp [Token.terminated, ht]⟩
    | false => exact ⟨us ++ [t], _, rfl, by simp [Token.terminated, ht]; rfl⟩

/-- A pattern that reading comes to and that cannot be read is what reading fails with. -/
theorem MeetsPattern.ofTokens {ts : List Token} {v : Token} {e : Pattern.Error}
    (h : MeetsPattern ts v) (he : Pattern.ofText v.text = .error e) :
    ofTokens ts = .error (v.patternFault e) := by
  obtain ⟨before, after, rfl, hawaits, hv⟩ := h
  obtain ⟨s, hsteps, hs⟩ := awaitsPattern_iff.mp hawaits
  have hrefuses : s.Refuses v (v.patternFault e) := by
    rw [State.Refuses, isStop_of_isValue hv]
    exact State.step_of_isAtPattern hs hv he
  exact hrefuses.ofTokens hsteps after

/-- Reading fails with a complaint, or at a pattern that it comes to and that cannot be read. -/
theorem ofTokens_error {ts : List Token} {x : ReadError} (h : ofTokens ts = .error x) :
    x.IsComplaint ∨
      ∃ v e, MeetsPattern ts v ∧ Pattern.ofText v.text = .error e ∧ x = v.patternFault e := by
  obtain ⟨us, stop, hstop, hus⟩ := terminated_eq ts
  rw [Filter.ofTokens, hus] at h
  obtain ⟨before, v, after, s, hts, hsteps, hrefuses⟩ := State.run_error hstop us h
  obtain ⟨cause, rfl, -⟩ | ⟨hs, hv, e, he, hx⟩ := hrefuses.cases
  · exact .inl trivial
  refine .inr ⟨v, e, ?_, he, hx⟩
  have hawaits := awaitsPattern_iff.mpr ⟨s, hsteps, hs⟩
  obtain heq | ⟨position, heq⟩ := terminated_cases ts
  · rw [← hus, heq] at hts
    exact ⟨before, after, hts, hawaits, hv⟩
  · -- The sentinel that was added is no value, so the pattern stands before it.
    rw [← hus, heq] at hts
    obtain rfl | ⟨after', stop', rfl⟩ := List.eq_nil_or_concat after
    · obtain ⟨-, hlast⟩ := List.append_inj' hts rfl
      cases hlast
      contradiction
    · rw [List.concat_eq_append, ← List.cons_append, ← List.append_assoc] at hts
      obtain ⟨hts, -⟩ := List.append_inj' hts rfl
      exact ⟨before, after', hts, hawaits, hv⟩

/-! ### Texts -/

/-- Reading the text comes to the pattern `v`. -/
def Meets (text : String) (v : Token) : Prop :=
  ∃ ts, Token.tokenize text = .ok ts ∧ MeetsPattern ts v

theorem Meets.parse {text : String} {v : Token} {e : Pattern.Error} (h : Meets text v)
    (he : Pattern.ofText v.text = .error e) : parse text = .error (v.patternFault e) := by
  obtain ⟨ts, htokenize, hmeets⟩ := h
  rw [Filter.parse, htokenize]
  exact hmeets.ofTokens he

theorem parse_error {text : String} {x : ReadError} (h : parse text = .error x) :
    x.IsComplaint ∨
      ∃ v e, Meets text v ∧ Pattern.ofText v.text = .error e ∧ x = v.patternFault e := by
  rw [parse] at h
  split at h
  · next ts htokenize =>
    obtain hcomplaint | ⟨v, e, hmeets, hrest⟩ := ofTokens_error h
    · exact .inl hcomplaint
    · exact .inr ⟨v, e, ⟨ts, htokenize, hmeets⟩, hrest⟩
  · cases h
    exact .inl trivial

/-- A filter is read, or refused with a complaint about a character or a token. -/
def Answers (text : String) : Prop :=
  (∃ f, parse text = .ok f) ∨ (∃ e, parse text = .error (.lex e)) ∨
    ∃ e, parse text = .error (.parse e)

theorem answers_iff {text : String} :
    Answers text ↔ ∀ x, parse text = .error x → x.IsComplaint := by
  constructor
  · rintro (⟨f, hparse⟩ | ⟨e, hparse⟩ | ⟨e, hparse⟩) x hx
    all_goals
      rw [hparse] at hx
      cases hx
    all_goals trivial
  · intro hcomplaint
    cases hparse : parse text with
    | ok f => exact .inl ⟨f, hparse⟩
    | error x =>
      have hx := hcomplaint x hparse
      cases x with
      | lex e => exact .inr (.inl ⟨e, hparse⟩)
      | parse e => exact .inr (.inr ⟨e, hparse⟩)
      | countTooLarge => contradiction
      | badPatternValue => contradiction

/-- There is an answer exactly if every pattern that reading comes to is read or malformed. -/
theorem answers_iff_isMalformed {text : String} :
    Answers text ↔
      ∀ v, Meets text v → ∀ e, Pattern.ofText v.text = .error e → e.IsMalformed := by
  rw [answers_iff]
  constructor
  · intro hcomplaint v hmeets e he
    exact (Token.isComplaint_patternFault v e).mp (hcomplaint _ (hmeets.parse he))
  · intro hmalformed x hx
    obtain hcomplaint | ⟨v, e, hmeets, he, rfl⟩ := parse_error hx
    · exact hcomplaint
    · exact (Token.isComplaint_patternFault v e).mpr (hmalformed v hmeets e he)

/-- There is an answer exactly if every pattern that reading comes to is read or malformed, and so
always if they are modest. A malformed one is complained about at its token. -/
theorem parse_complains_iff (text : String) :
    (Answers text ↔
      ∀ v, Meets text v → ∀ e, Pattern.ofText v.text = .error e → e.IsMalformed) ∧
    ((∀ v, Meets text v → Pattern.IsModest v.text) → Answers text) ∧
    ∀ v problem offset, Meets text v →
      Pattern.ofText v.text = .error (.malformed problem offset) →
      parse text = .error (.parse ⟨.invalidPattern v.text problem offset, v.position⟩) := by
  refine ⟨answers_iff_isMalformed, fun hmodest => ?_, fun v _ _ hmeets he => hmeets.parse he⟩
  exact answers_iff_isMalformed.mpr fun v hmeets e he => (hmodest v hmeets).isMalformed he

/-- A group that is not closed is complained about. -/
theorem parse_complains_unclosed :
    let v : Token := ⟨.literal, "(", 10⟩
    Meets "a matches '('" v ∧
      Pattern.ofText v.text = .error (.malformed .unterminatedGroup (some 0)) ∧
      parse "a matches '('" =
        .error (.parse ⟨.invalidPattern "(" .unterminatedGroup (some 0), 10⟩) := by
  intro v
  have htokenize : Token.tokenize "a matches '('" =
      .ok [⟨.identifier, "a", 0⟩, ⟨.keyword, "matches", 2⟩, v, .stop 13] := by decide +kernel
  have hawaits : AwaitsPattern [⟨.identifier, "a", 0⟩, ⟨.keyword, "matches", 2⟩] :=
    awaitsPattern_iff.mpr ⟨_, rfl, .field "a", rfl⟩
  have hmeets : Meets "a matches '('" v := ⟨_, htokenize, _, _, rfl, hawaits, rfl⟩
  have hpattern : Pattern.ofText v.text = .error (.malformed .unterminatedGroup (some 0)) := by
    decide +kernel
  exact ⟨hmeets, hpattern, (parse_complains_iff _).2.2 v _ _ hmeets hpattern⟩

/-- Reading fails without an answer for a count that is too large, and for flags that exclude each
other. -/
theorem parse_silent :
    parse "a matches 'b\x7b4294967295\x7d'" = .error .countTooLarge ∧
      ¬ Answers "a matches 'b\x7b4294967295\x7d'" ∧
      parse "a matches '(?a)(?u)b'" = .error .badPatternValue ∧
      ¬ Answers "a matches '(?a)(?u)b'" := by
  have hcount : parse "a matches 'b\x7b4294967295\x7d'" = .error .countTooLarge := by
    decide +kernel
  have hflags : parse "a matches '(?a)(?u)b'" = .error .badPatternValue := by decide +kernel
  exact ⟨hcount, fun h => answers_iff.mp h _ hcount, hflags, fun h => answers_iff.mp h _ hflags⟩

end Filter

end Coffer
