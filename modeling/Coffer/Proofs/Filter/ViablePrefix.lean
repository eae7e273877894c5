import Coffer.Proofs.Filter.Failure

/-!
Where reading a filter fails. A complaint names the offset of one token, and it is the first token
that is at fault: those before it can be completed to a filter, and with it among them nothing that
follows makes a filter any more (`IsFault`).

The reader never takes a token too many, since every state that it comes to can be completed
(`State.canFinish_of_steps`): an open operand takes at most three more tokens, and behind it the
open parentheses are closed. And it never takes one too few, since a token that it refuses is
refused whatever comes behind it (`State.Refuses.ofTokens`).

Main statement: a complaint is about the only token at fault, and if it is about a pattern, that
token is the value behind `matches` that cannot be read (`position_of_complaint`).
-/

namespace Coffer.Filter

/-- The tokens are read as a filter. -/
def IsAccepted (ts : List Token) : Prop :=
  ∃ e, ofTokens ts = .ok e

/-- With more tokens and the sentinel behind them, the tokens are read as a filter. -/
def IsViable (front : List Token) : Prop :=
  ∃ rest, (∀ t ∈ rest, t.isStop = false) ∧ IsAccepted (front ++ rest ++ [.stop 0])

/-- The token is the first at fault: without it and what comes behind it the tokens can be
completed, and with it they cannot. -/
structure IsFault (before : List Token) (t : Token) : Prop where
  viable : IsViable before
  impossible : ∀ after, ¬IsAccepted (before ++ t :: after)

theorem not_prefix_of_isFault {before front : List Token} {t : Token} (h : IsFault before t)
    (hfront : IsViable front) : ¬before ++ [t] <+: front := by
  intro ⟨more, hmore⟩
  obtain ⟨rest, -, haccepted⟩ := hfront
  apply h.impossible (more ++ rest ++ [.stop 0])
  simpa [← hmore] using haccepted

theorem IsFault.unique {before before' after after' : List Token} {t t' : Token}
    (h : IsFault before t) (h' : IsFault before' t')
    (heq : before ++ t :: after = before' ++ t' :: after') :
    before = before' ∧ t = t' ∧ after = after' := by
  -- Otherwise one of the two faults stands among the tokens before the other.
  obtain ⟨more, hbefore, hmore⟩ | ⟨more, hbefore, hmore⟩ := List.append_eq_append_iff.mp heq
  · cases more with
    | nil => simp_all
    | cons u more =>
      obtain ⟨rfl, -⟩ := List.cons.inj hmore
      exact absurd ⟨more, by simp [hbefore]⟩ (not_prefix_of_isFault h h'.viable)
  · cases more with
    | nil => simp_all
    | cons u more =>
      obtain ⟨rfl, -⟩ := List.cons.inj hmore
      exact absurd ⟨more, by simp [hbefore]⟩ (not_prefix_of_isFault h' h.viable)

/-! ### Completing what has been read -/

def State.CanFinish (s : State) : Prop :=
  ∃ rest s' e, s.steps rest = .ok s' ∧ s'.finish (.stop 0) = .ok e

theorem State.CanFinish.of_step {s s' : State} {t : Token} (h : s'.CanFinish)
    (hstep : s.step t = .ok s') : s.CanFinish := by
  obtain ⟨rest, last, e, hsteps, hfinish⟩ := h
  refine ⟨t :: rest, last, e, ?_, hfinish⟩
  rw [State.steps, hstep]
  exact hsteps

variable {level : Level} {outer : List Level}

theorem canFinish_after (e : Filter) : State.CanFinish ⟨level, outer, .after e⟩ := by
  obtain ⟨rest, l, last, hsteps⟩ := exists_closing outer level e
  exact ⟨rest, ⟨l, [], .after last⟩, l.close last, hsteps, rfl⟩

theorem canFinish_value {subject : Subject} {word : String} (hword : word ∈ comparisonWords) :
    State.CanFinish ⟨level, outer, .value subject word⟩ := by
  obtain ⟨p, hp⟩ := exists_pattern
  obtain ⟨c, hc⟩ : ∃ c, Comparison.ofWord? word "a" = some (.ok c) := by
    simp only [comparisonWords, List.mem_cons, List.not_mem_nil, or_false] at hword
    obtain rfl | rfl | rfl := hword
    · exact ⟨_, rfl⟩
    · exact ⟨_, rfl⟩
    · exact ⟨.fits p, by rw [Comparison.ofWord?, hp]; rfl⟩
  have hstep : State.step ⟨level, outer, .value subject word⟩ ⟨.literal, "a", 0⟩ =
      .ok ⟨level, outer, .after (.atom ⟨subject, c⟩)⟩ := by
    simp [State.step, Token.isValue, hc]
  exact (canFinish_after _).of_step hstep

theorem canFinish_comparison (subject : Subject) :
    State.CanFinish ⟨level, outer, .comparison subject⟩ :=
  (canFinish_value (show "is" ∈ comparisonWords by decide)).of_step (t := ⟨.keyword, "is", 0⟩) rfl

theorem canFinish_reference : State.CanFinish ⟨level, outer, .reference⟩ :=
  (canFinish_comparison .name).of_step (t := ⟨.identifier, "name", 0⟩) rfl

theorem canFinish_operand : State.CanFinish ⟨level, outer, .operand⟩ :=
  (canFinish_comparison .name).of_step (t := ⟨.punctuation, ".", 0⟩) rfl

/-- Whatever the reader has taken can be completed. -/
theorem State.canFinish_of_steps {s : State} {ts : List Token}
    (h : State.start.steps ts = .ok s) : s.CanFinish := by
  obtain ⟨level, outer, expect⟩ := s
  cases expect with
  | operand => exact canFinish_operand
  | reference => exact canFinish_reference
  | comparison subject => exact canFinish_comparison subject
  | value subject word =>
    -- What has been read ends in a word for a comparison, so that a value makes a predicate of it.
    obtain ⟨_, _, _, -, -, -, _, _, -, -, -, hword⟩ := State.Reads.steps ts State.reads_start h
    exact canFinish_value hword
  | after e => exact canFinish_after e

/-- No sentinel is among the tokens that are taken. -/
theorem State.isStop_of_steps {s' : State} : ∀ (ts : List Token) {s : State},
    s.steps ts = .ok s' → ∀ t ∈ ts, t.isStop = false
  | [], _, _ => by simp
  | t :: ts, s, h => by
    rw [State.steps] at h
    cases hstep : s.step t with
    | error x =>
      rw [hstep] at h
      cases h
    | ok s₁ =>
      rw [hstep] at h
      exact List.forall_mem_cons.mpr ⟨State.isStop_of_step hstep, State.isStop_of_steps ts h⟩

theorem isViable_of_steps {s : State} {ts : List Token} (h : State.start.steps ts = .ok s) :
    IsViable ts := by
  obtain ⟨rest, last, e, hrest, hfinish⟩ := State.canFinish_of_steps h
  refine ⟨rest, State.isStop_of_steps rest hrest, e, ?_⟩
  have hall : State.start.steps (ts ++ rest) = .ok last := by
    rw [State.steps_append_of_ok _ h, hrest]
  calc ofTokens (ts ++ rest ++ [.stop 0])
      = (State.start.steps (ts ++ rest)).bind (·.finish (.stop 0)) :=
        ofTokens_append_stop rfl (State.isStop_of_steps _ hall)
    _ = last.finish (.stop 0) := by rw [hall]; rfl
    _ = .ok e := hfinish

theorem State.Refuses.isFault {s : State} {before : List Token} {t : Token} {x : ReadError}
    (h : s.Refuses t x) (hsteps : State.start.steps before = .ok s) : IsFault before t where
  viable := isViable_of_steps hsteps
  impossible after := by
    intro ⟨e, haccepted⟩
    rw [h.ofTokens hsteps after] at haccepted
    cases haccepted

/-! ### Complaints -/

/-- What is said about a pattern is true of the value behind `matches`. -/
def IsAboutPattern (e : ParseError) (before : List Token) (t : Token) : Prop :=
  ∀ source problem offset, e.cause = .invalidPattern source problem offset →
    AwaitsPattern before ∧ t.isValue = true ∧ t.text = source ∧
      Pattern.ofText source = .error (.malformed problem offset)

theorem State.Refuses.complaint {s : State} {before : List Token} {t : Token} {e : ParseError}
    (h : s.Refuses t (.parse e)) (hsteps : State.start.steps before = .ok s) :
    e.position = t.position ∧ IsAboutPattern e before t := by
  obtain ⟨cause, heq, hcause⟩ | ⟨hs, hv, error, herror, heq⟩ := h.cases
  · -- A complaint about the grammar is not about a pattern.
    cases heq
    refine ⟨rfl, ?_⟩
    intro source problem offset hpattern
    subst hpattern
    contradiction
  · cases error with
    | malformed problem offset =>
      cases heq
      refine ⟨rfl, ?_⟩
      intro source problem' offset' hpattern
      cases hpattern
      exact ⟨awaitsPattern_iff.mpr ⟨s, hsteps, hs⟩, hv, rfl, herror⟩
    | _ => cases heq

/-- **A complaint is about the first token at fault.** The tokens before it are those that a filter
can begin with, and none begins with those up to it; no other token is at fault in this way. A
complaint about a pattern is about the value behind `matches` that cannot be read. -/
theorem position_of_complaint {ts : List Token} {stop : Token} {e : ParseError}
    (hstop : stop.isStop = true) (h : ofTokens (ts ++ [stop]) = .error (.parse e)) :
    ∃ before t after, ts ++ [stop] = before ++ t :: after ∧ e.position = t.position ∧
      IsFault before t ∧
      (∀ before' t' after', ts ++ [stop] = before' ++ t' :: after' → IsFault before' t' →
        before' = before ∧ t' = t) ∧
      IsAboutPattern e before t := by
  have hrun : State.start.run (ts ++ [stop]) = .error (.parse e) := by
    rwa [ofTokens, show Token.terminated (ts ++ [stop]) = ts ++ [stop] by
      simp [Token.terminated, hstop]] at h
  obtain ⟨before, t, after, s, hsplit, hsteps, hrefuses⟩ := State.run_error hstop ts hrun
  have hfault := hrefuses.isFault hsteps
  obtain ⟨hposition, hpattern⟩ := hrefuses.complaint hsteps
  refine ⟨before, t, after, hsplit, hposition, hfault, ?_, hpattern⟩
  intro before' t' after' hsplit' hfault'
  obtain ⟨hbefore, ht, -⟩ := hfault'.unique hfault (hsplit'.symm.trans hsplit)
  exact ⟨hbefore, ht⟩

/-- In `(a is b) and c matches (` the last token is at fault: it is no pattern. -/
theorem position_of_complaint_open : (Token.stop 26).isStop = true ∧
    let v : Token := ⟨.literal, "(", 23⟩
    let ts : List Token := [⟨.punctuation, "(", 0⟩, ⟨.identifier, "a", 1⟩, ⟨.keyword, "is", 3⟩,
      ⟨.identifier, "b", 6⟩, ⟨.punctuation, ")", 7⟩, ⟨.keyword, "and", 9⟩, ⟨.identifier, "c", 13⟩,
      ⟨.keyword, "matches", 15⟩, v]
    let e : ParseError := ⟨.invalidPattern "(" .unterminatedGroup (some 0), 23⟩
    ofTokens (ts ++ [.stop 26]) = .error (.parse e) ∧
      ∃ before after, ts ++ [.stop 26] = before ++ v :: after ∧ IsFault before v ∧
        AwaitsPattern before := by
  refine ⟨rfl, ?_⟩
  intro v ts e
  have hread : ofTokens (ts ++ [.stop 26]) = .error (.parse e) := by decide +kernel
  obtain ⟨before, t, after, hsplit, hposition, hfault, -, hpattern⟩ :=
    position_of_complaint rfl hread
  obtain ⟨hawaits, -⟩ := hpattern _ _ _ rfl
  -- No other token stands at that offset.
  have hmem : t ∈ ts ++ [.stop 26] := by simp [hsplit]
  have honly : ∀ u ∈ ts ++ [.stop 26], u.position = 23 → u = v := by decide
  obtain rfl := honly t hmem hposition.symm
  exact ⟨hread, before, after, hsplit, hfault, hawaits⟩

end Coffer.Filter
