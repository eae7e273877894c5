import Coffer.Command
import Coffer.Proofs.Token.Scan

/-!
What `show` and `reveal` make of a filter.

Both try other readings before the grammar of filters: a single name, `all`, and behind `reveal`
the log of a record. A filter has at least two tokens, and the second of one that starts with a name
is the word for a comparison, so a single name is never in its way (`eq_comparison_of_run`). The
reading of logs is: it is taken on the first token alone, and the word for a comparison cannot be a
name. Where a filter stands in the line does not matter (`State.run_moved`).

Main statement: `show` takes every filter as it is, and `reveal` all but those on a field whose name
is the unquoted word `history`; those it refuses (`parse_listing`).
-/

namespace Coffer

open Token (moved)

/-! ### Filters wherever they stand -/

namespace Filter

section

variable {α : Type}

private theorem toOption_ite {p : Prop} {_ : Decidable p} (x y : Except ReadError α) :
    (if p then x else y).toOption = if p then x.toOption else y.toOption :=
  apply_ite _ _ _ _

private theorem toOption_error (e : ReadError) : (.error e : Except ReadError α).toOption = none :=
  rfl

end

/-- The next state does not depend on where the token stands: the same tests are made on it, and
where they fail there is none. -/
theorem State.step_moved (k : Nat) (s : State) (t : Token) :
    (s.step (t.moved k)).toOption = (s.step t).toOption := by
  obtain ⟨level, outer, expect⟩ := s
  cases expect with
  | operand | reference | comparison _ =>
    simp only [State.step, toOption_ite, toOption_error]
    rfl
  | value subject word =>
    simp only [State.step, Token.text_moved, toOption_ite, toOption_error]
    cases Comparison.ofWord? word t.text with
    | none => rfl
    | some result => cases result <;> rfl
  | after e =>
    cases outer <;>
    · simp only [State.step, toOption_ite, toOption_error]
      rfl

theorem State.finish_moved (k : Nat) (s : State) (t : Token) :
    (s.finish (t.moved k)).toOption = (s.finish t).toOption := by
  obtain ⟨level, outer, expect⟩ := s
  cases expect with
  | after e => simp only [State.finish, toOption_ite, toOption_error]
  | _ => rfl

/-- The filter read does not depend on where its tokens stand. -/
theorem State.run_moved (k : Nat) (s : State) (ts : List Token) :
    (s.run (ts.map (moved k))).toOption = (s.run ts).toOption := by
  induction ts generalizing s with
  | nil => rfl
  | cons t ts ih =>
    have hstop : (t.moved k).isStop = t.isStop := rfl
    rw [List.map_cons, State.run, State.run, hstop, toOption_ite, toOption_ite, State.finish_moved]
    have hstep := State.step_moved k s t
    cases hmoved : s.step (t.moved k) with
    | error e =>
      cases hplain : s.step t with
      | error e' => rfl
      | ok s' => rw [hmoved, hplain] at hstep; cases hstep
    | ok s' =>
      cases hplain : s.step t with
      | error e => rw [hmoved, hplain] at hstep; cases hstep
      | ok s'' =>
        rw [hmoved, hplain] at hstep
        cases hstep
        simp only [Except.bind, ih]

theorem State.run_moved_of_ok {k : Nat} {s : State} {ts : List Token} {e : Filter}
    (h : s.run ts = .ok e) : s.run (ts.map (moved k)) = .ok e := by
  have hoption := State.run_moved k s ts
  rw [h] at hoption
  cases hrun : s.run (ts.map (moved k)) <;> rw [hrun] at hoption <;> cases hoption
  rfl

/-! ### How filters start -/

/-- What is read as a filter does not start with the sentinel, and behind a name the word for a
comparison comes next. -/
theorem eq_comparison_of_run {ts : List Token} {e : Filter} (h : State.start.run ts = .ok e) :
    ∃ t us, ts = t :: us ∧ t.isStop = false ∧
      (t.isValue = true →
        ∃ u vs, us = u :: vs ∧ u.kind = .keyword ∧ u.text ∈ comparisonWords) := by
  cases ts with
  | nil => cases h
  | cons t us =>
    rw [State.run] at h
    split at h
    · cases h
    next hstop =>
    refine ⟨t, us, rfl, by simpa using hstop, ?_⟩
    intro hvalue
    -- A name can only be the subject of a comparison, which settles what may follow.
    have hname : State.start.step t = .ok ⟨.empty, [], .comparison (.field t.text)⟩ := by
      simp only [Token.isValue, Bool.or_eq_true, beq_iff_eq] at hvalue
      rcases hvalue with hkind | hkind <;>
        simp [State.start, State.step, Token.isPunctuation, Token.isValue, hkind]
    rw [hname] at h
    cases us with
    | nil => cases h
    | cons u vs =>
      refine ⟨u, vs, rfl, ?_⟩
      -- Any other word is where the parse ends, in an error.
      by_contra hword
      have hstep : State.step ⟨.empty, [], .comparison (.field t.text)⟩ u =
          .error (u.fault (.expected "an operator (is, contains, matches)" u)) := by
        simp only [State.step, if_neg hword]
      simp only [Except.bind, State.run, State.finish, hstep, ite_self] at h
      cases h

end Filter

/-! ### Listings -/

namespace Command

open RecordSpec (current takeName takeValue)

/-- With the other readings out of the way, what follows `show` or `reveal` is read as a filter. -/
theorem listing_eq_show {reveal : Bool} {ts : List Token}
    (hstop : (current ts).isStop = false)
    (hlog : (reveal && (current ts).isWord "history" && !(current (ts.drop 1)).isStop) = false)
    (hname : ((current ts).isValue && (current (ts.drop 1)).isStop) = false) :
    listing reveal ts = (Filter.State.start.run ts).map fun e => .show (some e) reveal := by
  simp only [listing, hstop, hlog, hname, Bool.false_eq_true, if_false]
  cases Filter.State.start.run ts <;> rfl

/-- A filter behind `show` or `reveal`. Behind `reveal`, one that starts with the word `history` is
taken for a request for a log, and what should be a record's name is not. -/
theorem listing_of_run {ts : List Token} {e : Filter} (h : Filter.State.start.run ts = .ok e) :
    listing false ts = .ok (.show (some e) false) ∧
      ((current ts).isWord "history" = false →
        listing true ts = .ok (.show (some e) true)) ∧
      ((current ts).isWord "history" = true →
        ∃ u ∈ ts, u.kind = .keyword ∧ u.text ∈ Filter.comparisonWords ∧
          listing true ts = .error (u.fault (.expected "a record name" u))) := by
  obtain ⟨t, us, rfl, hstop, hcomparison⟩ := Filter.eq_comparison_of_run h
  have hname : (t.isValue && (current us).isStop) = false := by
    cases hvalue : t.isValue with
    | false => rfl
    | true =>
      obtain ⟨u, vs, rfl, hkind, _⟩ := hcomparison hvalue
      simp [current, Token.isStop, hkind]
  refine ⟨?_, ?_, ?_⟩
  · have hread : listing false (t :: us) = _ := listing_eq_show hstop rfl hname
    rw [hread, h]
    rfl
  · intro hword
    have hlog : (true && t.isWord "history" && !(current us).isStop) = false := by
      rw [show t.isWord "history" = false from hword]
      rfl
    have hread : listing true (t :: us) = _ := listing_eq_show hstop hlog hname
    rw [hread, h]
    rfl
  · intro hword
    have hvalue : t.isValue = true := by
      simp only [Token.isWord, current, List.headD_cons, Bool.and_eq_true, beq_iff_eq] at hword
      simp [Token.isValue, hword.1]
    obtain ⟨u, vs, rfl, hkind, htext⟩ := hcomparison hvalue
    refine ⟨u, by simp, hkind, htext, ?_⟩
    -- the word for the comparison stands where the name of a record is looked for
    have hstop' : u.isStop = false := by simp [Token.isStop, hkind]
    have hvalue' : u.isValue = false := by simp [Token.isValue, hkind]
    have htake : takeName "a record name" (u :: vs) =
        .error (u.fault (.expected "a record name" u)) := by
      simp only [takeName, takeValue, hvalue', Bool.false_eq_true, if_false]
      rfl
    simp only [listing, hword, List.drop_succ_cons, List.drop_zero, htake]
    simp only [current, List.headD_cons, hstop, hstop', Bool.not_false, Bool.and_true, if_true,
      Bool.false_eq_true, if_false]
    rfl

theorem parse_word {word : String} {w : Word} (hword : Token.IsBare word)
    (hw : Word.ofText? word = some w) (text : String) :
    Command.parse (word ++ " " ++ text) =
      match Token.tokenize text with
      | .ok ts => arguments w (ts.map (moved (word.length + 1)))
      | .error e => .error (.lex (Token.movedError (word.length + 1) e)) := by
  rw [Command.parse, Token.tokenize_word hword]
  generalize word.length + 1 = k
  cases hts : Token.tokenize text with
  | error e => rfl
  | ok ts =>
    obtain ⟨front, last, rfl, -⟩ := Token.exists_stop_of_scan (Token.scan_of_tokenize hts)
    have hterminated : Token.terminated
        (⟨.identifier, word, 0⟩ :: (front ++ [Token.stop last]).map (moved k)) =
          ⟨.identifier, word, 0⟩ :: (front ++ [Token.stop last]).map (moved k) := by
      rw [List.map_append, ← List.cons_append]
      exact Token.terminated_append_stop _ (last + k)
    simp only [ofTokens, hterminated, current, List.headD_cons, hw, List.drop_succ_cons,
      List.drop_zero, ne_eq, not_true_eq_false, if_false]

theorem exists_run_of_parse {text : String} {e : Filter} (h : Filter.parse text = .ok e) :
    ∃ ts, Token.tokenize text = .ok ts ∧ Filter.State.start.run ts = .ok e := by
  rw [Filter.parse] at h
  split at h
  case h_2 => cases h
  next ts hts =>
  obtain ⟨front, last, hfront, _⟩ := Token.exists_stop_of_scan (Token.scan_of_tokenize hts)
  refine ⟨ts, hts, ?_⟩
  rwa [Filter.ofTokens, hfront, Token.terminated_append_stop, ← hfront] at h

theorem parse_show {text : String} {e : Filter} (h : Filter.parse text = .ok e) :
    Command.parse ("show " ++ text) = .ok (.show (some e) false) := by
  obtain ⟨ts, hts, hrun⟩ := exists_run_of_parse h
  have hshow := parse_word (show Token.IsBare "show" by decide) rfl text
  rw [hts] at hshow
  obtain ⟨hplain, -, -⟩ := listing_of_run (Filter.State.run_moved_of_ok (k := 5) hrun)
  exact hshow.trans hplain

/-- The filter starts with the unquoted word `history`, in any letter case. -/
def OpensWithHistory (text : String) : Prop :=
  ∃ t ts, Token.tokenize text = .ok (t :: ts) ∧ t.isWord "history" = true

/-- **`show` takes every filter as it is; `reveal` does, except for those that start with the word
`history`.** Of those it takes the first word for the request for a log, and complains that the word
for the comparison is no record's name. -/
theorem parse_listing {text : String} {e : Filter} (h : Filter.parse text = .ok e) :
    Command.parse ("show " ++ text) = .ok (.show (some e) false) ∧
      (Command.parse ("reveal " ++ text) = .ok (.show (some e) true) ↔ ¬OpensWithHistory text) ∧
      (OpensWithHistory text →
        ∃ u : Token, u.kind = .keyword ∧ u.text ∈ Filter.comparisonWords ∧
          Command.parse ("reveal " ++ text) =
            .error (u.fault (.expected "a record name" u))) := by
  have hshow := parse_show h
  obtain ⟨ts, hts, hrun⟩ := exists_run_of_parse h
  have hreveal := parse_word (show Token.IsBare "reveal" by decide) rfl text
  rw [hts] at hreveal
  have hreveal : Command.parse ("reveal " ++ text) = listing true (ts.map (moved 7)) := hreveal
  obtain ⟨-, hother, hlog⟩ := listing_of_run (Filter.State.run_moved_of_ok (k := 7) hrun)
  -- whether the word comes first does not depend on where it stands
  have hopens : OpensWithHistory text ↔ (current (ts.map (moved 7))).isWord "history" = true := by
    obtain ⟨t, us, rfl, -, -⟩ := Filter.eq_comparison_of_run hrun
    constructor
    · intro ⟨t', us', hts', hword⟩
      rw [hts'] at hts
      cases hts
      exact hword
    · intro hword
      exact ⟨t, us, hts, hword⟩
  refine ⟨hshow, ?_, ?_⟩
  · rw [hreveal]
    constructor
    · intro hread hword
      obtain ⟨u, -, -, -, herror⟩ := hlog (hopens.mp hword)
      rw [herror] at hread
      cases hread
    · intro hword
      exact hother (Bool.eq_false_iff.mpr fun hfirst => hword (hopens.mpr hfirst))
  · intro hword
    obtain ⟨u, -, hkind, htext, herror⟩ := hlog (hopens.mp hword)
    exact ⟨u, hkind, htext, hreveal.trans herror⟩

/-- A filter on a field of another name is taken by both. -/
theorem parse_listing_user :
    let e : Filter := .atom ⟨.field "user", .is "me"⟩
    Filter.parse "user is 'me'" = .ok e ∧ ¬OpensWithHistory "user is 'me'" ∧
      Command.parse "show user is 'me'" = .ok (.show (some e) false) ∧
      Command.parse "reveal user is 'me'" = .ok (.show (some e) true) := by
  intro e
  have hfilter : Filter.parse "user is 'me'" = .ok e := by decide +kernel
  have htokens : Token.tokenize "user is 'me'" =
      .ok [⟨.identifier, "user", 0⟩, ⟨.keyword, "is", 5⟩, ⟨.literal, "me", 8⟩, .stop 12] := by
    decide +kernel
  have hopens : ¬OpensWithHistory "user is 'me'" := by
    intro ⟨t, ts, hts, hword⟩
    rw [htokens] at hts
    cases hts
    exact absurd hword (by decide)
  obtain ⟨hshow, hreveal, -⟩ := parse_listing hfilter
  exact ⟨hfilter, hopens, hshow, hreveal.mpr hopens⟩

/-- A filter on the field `history` is listed by `show` and refused by `reveal`. -/
theorem parse_reveal_history :
    let e : Filter := .atom ⟨.field "history", .is "x"⟩
    Filter.parse "history is 'x'" = .ok e ∧
      Command.parse "show history is 'x'" = .ok (.show (some e) false) ∧
      Command.parse "reveal history is 'x'" =
        .error (.parse ⟨.expected "a record name" ⟨.keyword, "is", 15⟩, 15⟩) := by
  decide +kernel

end Command

end Coffer
