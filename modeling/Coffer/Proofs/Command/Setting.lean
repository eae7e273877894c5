import Coffer.Proofs.Command.Listing
import Coffer.Proofs.RecordSpec

/-!
Record specs behind `set`.

A record spec says the same by itself and behind the command word; only the offsets in complaints
differ, by the length of what stands in front (`Command.parse_set`). It is shown reader by reader:
on tokens that are moved along the line each one comes to the same, moved along (`takeField_moved`
and so on). Only where tokens run out does a reader make up a token of its own, and that does not
happen to tokens that end in a sentinel.
-/

namespace Coffer

open Token (moved stop)

/-! ### Complaints further along the line -/

/-- The complaint about a token that is moved along the line. -/
def ParseError.Cause.moved (k : Nat) : ParseError.Cause → ParseError.Cause
  | .expected what found => .expected what (found.moved k)
  | .unexpected found => .unexpected (found.moved k)
  | .unbalancedOpen found => .unbalancedOpen (found.moved k)
  | .unknownReference found => .unknownReference (found.moved k)
  | cause => cause

def ReadError.moved (k : Nat) : ReadError → ReadError
  | .lex e => .lex (Token.movedError k e)
  | .parse e => .parse ⟨e.cause.moved k, e.position + k⟩
  | e => e

namespace RecordSpec

variable {α β : Type} {ts : List Token} {what : String} {seen : List String}

/-! ### Readers further along the line -/

/-- What a reader comes to on tokens that are moved along the line. -/
def movedResult (k : Nat) (f : α → α) : Except ReadError α → Except ReadError α
  | .ok a => .ok (f a)
  | .error e => .error (e.moved k)

theorem movedResult_bind {k : Nat} {P : α → Prop} {x : Except ReadError α} {f : α → α}
    {next : α → Except ReadError β} {g : β → β} (hx : Yields P x)
    (hnext : ∀ a, P a → next (f a) = movedResult k g (next a)) :
    (movedResult k f x >>= next) = movedResult k g (x >>= next) := by
  cases x with
  | ok a => exact hnext a hx
  | error e => rfl

/-- What has been taken and what is left, moved along the line. -/
def movedRest (k : Nat) (r : Token × List Token) : Token × List Token :=
  (r.1.moved k, r.2.map (moved k))

theorem takeValue_moved (k : Nat) (h : IsEnded ts) :
    takeValue what (ts.map (moved k)) = movedResult k (movedRest k) (takeValue what ts) := by
  cases ts with
  | nil =>
    obtain ⟨us, last, heq⟩ := h
    simp at heq
  | cons t rest =>
    have hvalue : (t.moved k).isValue = t.isValue := rfl
    rw [List.map_cons, takeValue, takeValue, hvalue]
    split <;> rfl

theorem takeName_moved (k : Nat) (h : IsEnded ts) :
    takeName what (ts.map (moved k)) = movedResult k (movedRest k) (takeName what ts) := by
  rw [takeName, takeValue_moved k h]
  apply movedResult_bind (takeValue_yields what ts)
  intro r _
  dsimp only [movedRest, Token.text_moved]
  rw [apply_ite (movedResult k (movedRest k))]
  rfl

theorem takeEquals_moved (k : Nat) (h : IsEnded ts) :
    takeEquals (ts.map (moved k)) = movedResult k (List.map (moved k)) (takeEquals ts) := by
  cases ts with
  | nil =>
    obtain ⟨us, last, heq⟩ := h
    simp at heq
  | cons t rest =>
    have hsign : (t.moved k).isPunctuation "=" = t.isPunctuation "=" := rfl
    rw [List.map_cons, takeEquals, takeEquals, hsign]
    split <;> rfl

theorem leadingModifier_moved (k : Nat) (ts : List Token) :
    leadingModifier (ts.map (moved k)) =
      ((leadingModifier ts).1, (leadingModifier ts).2.map (moved k)) := by
  cases ts with
  | nil => rfl
  | cons t rest =>
    have hword : isModifier (t.moved k) = isModifier t := rfl
    have hnext : (current (rest.map (moved k))).isPunctuation "=" =
        (current rest).isPunctuation "=" := by
      cases rest <;> rfl
    rw [List.map_cons, leadingModifier, leadingModifier, hword, hnext]
    split <;> rfl

theorem trailingModifier_moved (k : Nat) (ts : List Token) :
    trailingModifier (ts.map (moved k)) =
      ((trailingModifier ts).1, (trailingModifier ts).2.map (moved k)) := by
  cases ts with
  | nil => rfl
  | cons t rest =>
    have hword : isModifier (t.moved k) = isModifier t := rfl
    rw [List.map_cons, trailingModifier, trailingModifier, hword]
    split <;> rfl

theorem takeField_moved (k : Nat) (seen : List String) (h : IsEnded ts) :
    takeField seen (ts.map (moved k)) =
      movedResult k (fun r => (r.1, r.2.map (moved k))) (takeField seen ts) := by
  have hleading := h.leadingModifier
  rw [takeField, takeField, leadingModifier_moved]
  generalize leadingModifier ts = marked at hleading
  obtain ⟨marked, us⟩ := marked
  dsimp only at hleading ⊢
  rw [takeName_moved k hleading]
  apply movedResult_bind (takeName_yields _ _)
  intro r hr
  obtain ⟨key, rest⟩ := r
  obtain ⟨hkey, hvalue, -⟩ := hr
  rw [hkey] at hleading
  have htrailing := (hleading.tail (Filter.isStop_of_isValue hvalue)).trailingModifier
  show (if key.text ∈ seen then _ else _ : Except ReadError _) =
    movedResult k _ (if key.text ∈ seen then _ else _)
  -- The key's text is the same, and has been seen before or not.
  by_cases hseen : key.text ∈ seen
  · rw [if_pos hseen, if_pos hseen]
    rfl
  rw [if_neg hseen, if_neg hseen]
  dsimp only [movedRest] at htrailing ⊢
  rw [trailingModifier_moved]
  generalize trailingModifier rest = alsoMarked at htrailing
  obtain ⟨alsoMarked, us'⟩ := alsoMarked
  dsimp only at htrailing ⊢
  rw [takeEquals_moved k htrailing]
  apply movedResult_bind (takeEquals_yields _)
  intro rest' hrest'
  obtain ⟨t, ht, hsign⟩ := hrest'
  rw [ht] at htrailing
  rw [takeValue_moved k (htrailing.tail (isStop_of_isPunctuation hsign))]
  apply movedResult_bind (takeValue_yields _ _)
  intro r _
  rfl

theorem takeFields_moved (k budget : Nat) (seen : List String) (h : IsEnded ts) :
    takeFields budget seen (ts.map (moved k)) = movedResult k id (takeFields budget seen ts) := by
  induction budget generalizing seen ts with
  | zero => rfl
  | succ budget ih =>
    have hstop : (current (ts.map (moved k))).isStop = (current ts).isStop := by
      cases ts <;> rfl
    rw [takeFields, takeFields, hstop]
    split
    · rfl
    rw [takeField_moved k seen h]
    apply movedResult_bind (takeField_yields seen ts)
    intro r hr
    obtain ⟨f, rest⟩ := r
    have hrest : IsEnded rest := hr.2.2.2 h
    dsimp only
    rw [ih (f.key :: seen) hrest]
    apply movedResult_bind (takeFields_yields _ _ rest)
    intro fs _
    rfl

theorem IsEnded.moved (k : Nat) (h : IsEnded ts) : IsEnded (ts.map (moved k)) := by
  obtain ⟨us, last, rfl⟩ := h
  exact ⟨us.map (Token.moved k), last + k, List.map_append⟩

theorem ofTokens_moved (k : Nat) (h : IsEnded ts) :
    ofTokens (ts.map (moved k)) = movedResult k id (ofTokens ts) := by
  rw [ofTokens, ofTokens, (h.moved k).terminated_eq, h.terminated_eq, takeName_moved k h]
  apply movedResult_bind (takeName_yields _ _)
  intro r hr
  obtain ⟨name, rest⟩ := r
  obtain ⟨hname, hvalue, -⟩ := hr
  rw [hname] at h
  have hrest : IsEnded rest := h.tail (Filter.isStop_of_isValue hvalue)
  dsimp only [movedRest]
  rw [List.length_map, takeFields_moved k _ _ hrest]
  apply movedResult_bind (takeFields_yields _ _ rest)
  intro fs _
  rfl

end RecordSpec

namespace Command

open RecordSpec

theorem arguments_set_eq {ts : List Token} (h : IsEnded ts) :
    arguments .set ts = (RecordSpec.ofTokens ts).map .set := by
  rw [arguments, RecordSpec.ofTokens, h.terminated_eq]
  cases takeName "a record name" ts with
  | error e => rfl
  | ok r =>
    obtain ⟨name, rest⟩ := r
    show (takeFields rest.length [] rest >>= fun fs => pure (Command.set ⟨name.text, fs⟩)) =
      (takeFields rest.length [] rest >>= fun fs => pure ⟨name.text, fs⟩).map Command.set
    cases takeFields rest.length [] rest <;> rfl

/-- **A record spec behind `set`** is read as by itself. What is wrong with it is complained about
at an offset greater by 4. -/
theorem parse_set (text : String) :
    Command.parse ("set " ++ text) =
      match RecordSpec.parse text with
      | .ok spec => .ok (.set spec)
      | .error e => .error (e.moved 4) := by
  -- The word and the blank behind it are four characters.
  have hset : Command.parse ("set " ++ text) = _ :=
    parse_word (show Token.IsBare "set" by decide) rfl text
  rw [hset, RecordSpec.parse]
  cases hts : Token.tokenize text with
  | error e => rfl
  | ok ts =>
    have hended := isEnded_of_tokenize hts
    calc arguments .set (ts.map (moved 4))
        = (RecordSpec.ofTokens (ts.map (moved 4))).map .set := arguments_set_eq (hended.moved 4)
      _ = (movedResult 4 id (RecordSpec.ofTokens ts)).map .set := by rw [ofTokens_moved 4 hended]
      _ = _ := by
        dsimp only
        cases RecordSpec.ofTokens ts <;> rfl

end Command

end Coffer
