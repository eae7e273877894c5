import Coffer.Proofs.Filter.Failure
import Coffer.Proofs.Token.Scan
import Coffer.RecordSpec
import Mathlib.Data.List.Forall2

/-!
What record specs are read from, and what is checked of them. A field is a key and a value with a
`=` between them, and a marking word in front if it is sensitive; a run of such fields is read back,
whatever their keys are, as long as no key is empty or comes twice. A key is never taken for a
marking word: directly before a `=` such a word stands for itself.

Conversely, whatever is read has a name, and keys that are not empty and all different; all else is
complained about (`parse_yields`). What each reader takes and checks is said by one lemma, and these
are put together along the readers (`Yields.bind`).
-/

namespace Coffer.RecordSpec

open Token (Kind Reads lexeme stop)

variable {t key equals value : Token} {rest : List Token} {what : String} {seen : List String}

/-! ### Single tokens -/

theorem takeValue_cons (ht : t.isValue = true) : takeValue what (t :: rest) = .ok (t, rest) := by
  simp only [takeValue, ht, if_true]

theorem takeName_cons (ht : t.isValue = true) (hne : t.text ≠ "") :
    takeName what (t :: rest) = .ok (t, rest) := by
  simp only [takeName, takeValue_cons ht]
  show (if t.text = "" then _ else _ : Except ReadError _) = _
  rw [if_neg hne]
  rfl

theorem takeEquals_cons (ht : t.isPunctuation "=" = true) : takeEquals (t :: rest) = .ok rest := by
  simp only [takeEquals, ht, if_true]

/-- A marking word is an identifier, and so no sign. -/
theorem not_isModifier_of_isPunctuation (ht : t.isPunctuation "=" = true) :
    isModifier t = false := by
  simp only [Token.isPunctuation, Bool.and_eq_true, beq_iff_eq] at ht
  simp [isModifier, Token.isWord, ht.1]

/-! ### Fields -/

/-- Once it is settled whether a marking word stands in front, a key, a `=` and a value are left. -/
theorem takeField_of_leading {ts : List Token} {marked : Bool}
    (hleading : leadingModifier ts = (marked, key :: equals :: value :: rest))
    (hkey : key.isValue = true) (hne : key.text ≠ "") (hseen : key.text ∉ seen)
    (hequals : equals.isPunctuation "=" = true) (hvalue : value.isValue = true) :
    takeField seen ts = .ok (⟨key.text, value.text, marked⟩, rest) := by
  have htrailing : trailingModifier (equals :: value :: rest) =
      (false, equals :: value :: rest) := by
    simp [trailingModifier, not_isModifier_of_isPunctuation hequals]
  simp only [takeField, hleading, takeName_cons hkey hne, bind, Except.bind]
  simp only [if_neg hseen, htrailing, takeEquals_cons hequals, takeValue_cons hvalue,
    Bool.or_false]
  rfl

/-- Directly before a `=`, a marking word is no mark. -/
theorem leadingModifier_plain (hequals : equals.isPunctuation "=" = true) :
    leadingModifier (key :: equals :: rest) = (false, key :: equals :: rest) := by
  simp [leadingModifier, current, hequals]

theorem leadingModifier_marked {marker : Token} (hmarker : isModifier marker = true)
    (hkey : key.isValue = true) :
    leadingModifier (marker :: key :: rest) = (true, key :: rest) := by
  have hsign : key.isPunctuation "=" = false := by
    simp only [Token.isValue, Bool.or_eq_true, beq_iff_eq] at hkey
    rcases hkey with hkind | hkind <;> simp [Token.isPunctuation, hkind]
  simp [leadingModifier, current, hmarker, hsign]

/-- The kinds and texts of tokens that spell a field: its key, a `=` and its value, and a mark in
front if it is sensitive. -/
inductive Spells : Field → List (Kind × String) → Prop
  | plain {key value : String} {k l : Kind} (hk : k = .identifier ∨ k = .literal)
      (hl : l = .identifier ∨ l = .literal) :
      Spells ⟨key, value, false⟩ [(k, key), (.punctuation, "="), (l, value)]
  | marked {key value : String} {k l : Kind} (hk : k = .identifier ∨ k = .literal)
      (hl : l = .identifier ∨ l = .literal) :
      Spells ⟨key, value, true⟩
        [(.identifier, "secret"), (k, key), (.punctuation, "="), (l, value)]

theorem isValue_of_lexeme {k : Kind} {text : String} (hk : k = .identifier ∨ k = .literal)
    (ht : lexeme t = (k, text)) : t.isValue = true ∧ t.text = text := by
  obtain ⟨hkind, htext⟩ := Prod.mk.inj ht
  refine ⟨?_, htext⟩
  rcases hk with rfl | rfl <;> simp [Token.isValue, hkind]

theorem isPunctuation_of_lexeme (ht : lexeme t = (.punctuation, "=")) :
    t.isPunctuation "=" = true := by
  obtain ⟨hkind, htext⟩ := Prod.mk.inj ht
  simp [Token.isPunctuation, hkind, htext]

theorem isModifier_of_lexeme (ht : lexeme t = (.identifier, "secret")) : isModifier t = true := by
  obtain ⟨hkind, htext⟩ := Prod.mk.inj ht
  simp only [isModifier, Token.isWord, hkind, htext]
  decide

/-- The tokens that spell a key, a `=` and a value. -/
theorem exists_of_lexemes {k l : Kind} {name text : String} {ts : List Token}
    (hk : k = .identifier ∨ k = .literal) (hl : l = .identifier ∨ l = .literal)
    (hts : ts.map lexeme = [(k, name), (.punctuation, "="), (l, text)]) :
    ∃ key equals value, ts = [key, equals, value] ∧ (key.isValue = true ∧ key.text = name) ∧
      equals.isPunctuation "=" = true ∧ value.isValue = true ∧ value.text = text := by
  obtain ⟨key, us, rfl, hkey, hus⟩ := List.map_eq_cons_iff.mp hts
  obtain ⟨equals, vs, rfl, hequals, hvs⟩ := List.map_eq_cons_iff.mp hus
  obtain ⟨value, ws, rfl, hvalue, hws⟩ := List.map_eq_cons_iff.mp hvs
  obtain rfl := List.map_eq_nil_iff.mp hws
  exact ⟨key, equals, value, rfl, isValue_of_lexeme hk hkey, isPunctuation_of_lexeme hequals,
    isValue_of_lexeme hl hvalue⟩

theorem takeField_of_spells {f : Field} {ls : List (Kind × String)} {ts : List Token}
    (h : Spells f ls) (hts : ts.map lexeme = ls) (hne : f.key ≠ "") (hseen : f.key ∉ seen) :
    takeField seen (ts ++ rest) = .ok (f, rest) := by
  cases h with
  | plain hk hl =>
    obtain ⟨key, equals, value, rfl, ⟨hkey, rfl⟩, hequals, hvalue, rfl⟩ :=
      exists_of_lexemes hk hl hts
    exact takeField_of_leading (leadingModifier_plain hequals) hkey hne hseen hequals hvalue
  | marked hk hl =>
    obtain ⟨marker, us, rfl, hmarker, hus⟩ := List.map_eq_cons_iff.mp hts
    obtain ⟨key, equals, value, rfl, ⟨hkey, rfl⟩, hequals, hvalue, rfl⟩ :=
      exists_of_lexemes hk hl hus
    have hmark := isModifier_of_lexeme hmarker
    exact takeField_of_leading (leadingModifier_marked hmark hkey) hkey hne hseen hequals hvalue

/-! ### Rows of fields -/

theorem not_isStop_of_spells {f : Field} {ls : List (Kind × String)} {ts : List Token}
    (h : Spells f ls) (hts : ts.map lexeme = ls) :
    (current (ts ++ rest)).isStop = false := by
  cases h with
  | plain hk _ =>
    obtain ⟨key, us, rfl, hkey, _⟩ := List.map_eq_cons_iff.mp hts
    obtain ⟨hkind, -⟩ := Prod.mk.inj hkey
    rcases hk with rfl | rfl <;> simp [current, Token.isStop, hkind]
  | marked _ _ =>
    obtain ⟨marker, us, rfl, hmarker, _⟩ := List.map_eq_cons_iff.mp hts
    obtain ⟨hkind, -⟩ := Prod.mk.inj hmarker
    simp [current, Token.isStop, hkind]

/-- Spelled fields are read one after the other, as long as no key is empty or comes twice. -/
theorem takeFields_of_spells {fs : List Field} {lss : List (List (Kind × String))}
    (h : List.Forall₂ Spells fs lss) {budget last : Nat} {ts : List Token}
    (hts : ts.map lexeme = lss.flatten) (hbudget : fs.length ≤ budget)
    (hne : ∀ f ∈ fs, f.key ≠ "") (hnodup : (fs.map Field.key).Nodup)
    (hseen : ∀ f ∈ fs, f.key ∉ seen) :
    takeFields budget seen (ts ++ [stop last]) = .ok fs := by
  induction h generalizing budget seen ts with
  | nil =>
    rw [List.flatten_nil, List.map_eq_nil_iff] at hts
    subst hts
    cases budget <;> rfl
  | @cons f ls fs lss hf _ ih =>
    rw [List.flatten_cons] at hts
    obtain ⟨front, back, rfl, hfront, hback⟩ := List.map_eq_append_iff.mp hts
    obtain ⟨budget, rfl⟩ : ∃ n, budget = n + 1 := ⟨budget - 1, by simp at hbudget; omega⟩
    simp only [List.map_cons, List.nodup_cons, List.forall_mem_cons, List.length_cons] at *
    have htake : takeField seen (front ++ (back ++ [stop last])) = _ :=
      takeField_of_spells hf hfront hne.1 hseen.1
    have hstop : (current (front ++ (back ++ [stop last]))).isStop = _ :=
      not_isStop_of_spells hf hfront
    -- the keys that are left are none of those seen, nor the one just read
    have hrest : ∀ g ∈ fs, g.key ∉ f.key :: seen := by
      intro g hg hmem
      rcases List.mem_cons.mp hmem with heq | hmem
      · exact hnodup.1 (heq ▸ List.mem_map_of_mem hg)
      · exact hseen.2 g hg hmem
    have ih := ih hback (Nat.le_of_succ_le_succ hbudget) hne.2 hnodup.2 hrest
    rw [List.append_assoc, takeFields, hstop, htake]
    simp only [Bool.false_eq_true, if_false, bind, Except.bind, ih]
    rfl

theorem length_le_of_spells {fs : List Field} {lss : List (List (Kind × String))}
    (h : List.Forall₂ Spells fs lss) : fs.length ≤ lss.flatten.length := by
  induction h with
  | nil => simp
  | @cons f ls fs lss hf _ ih =>
    have hls : 1 ≤ ls.length := by cases hf <;> simp
    rw [List.flatten_cons, List.length_append, List.length_cons]
    omega

theorem takeFields_length {fs : List Field} {lss : List (List (Kind × String))}
    (h : List.Forall₂ Spells fs lss) (last : Nat) {ts : List Token}
    (hts : ts.map lexeme = lss.flatten) (hne : ∀ f ∈ fs, f.key ≠ "")
    (hnodup : (fs.map Field.key).Nodup) :
    takeFields (ts ++ [stop last]).length [] (ts ++ [stop last]) = .ok fs := by
  refine takeFields_of_spells h hts ?_ hne hnodup (by simp)
  have hlength := length_le_of_spells h
  rw [← hts, List.length_map] at hlength
  rw [List.length_append]
  omega

theorem parse_of_reads {text name : String} {k : Kind} {fs : List Field}
    {lss : List (List (Kind × String))} (h : Reads text.toList ((k, name) :: lss.flatten) [])
    (hk : k = .identifier ∨ k = .literal) (hname : name ≠ "")
    (hspells : List.Forall₂ Spells fs lss) (hne : ∀ f ∈ fs, f.key ≠ "")
    (hnodup : (fs.map Field.key).Nodup) : RecordSpec.parse text = .ok ⟨name, fs⟩ := by
  obtain ⟨us, last, htokens, hus⟩ := h.tokenize
  obtain ⟨t, ts, rfl, ht, hts⟩ := List.map_eq_cons_iff.mp hus
  obtain ⟨hvalue, rfl⟩ := isValue_of_lexeme hk ht
  have hfields := takeFields_length hspells last hts hne hnodup
  simp only [RecordSpec.parse, htokens, ofTokens, Token.terminated_append_stop]
  simp only [List.cons_append, takeName_cons hvalue hname, bind, Except.bind, hfields]
  rfl

/-! ### What the readers yield -/

section

variable {α β : Type}

/-- Either there is something to complain about, or what is read has the property. -/
def Yields (P : α → Prop) : Except ReadError α → Prop
  | .ok a => P a
  | .error e => e.IsComplaint

theorem Yields.bind {P : α → Prop} {Q : β → Prop} {x : Except ReadError α}
    {next : α → Except ReadError β} (hx : Yields P x) (hnext : ∀ a, P a → Yields Q (next a)) :
    Yields Q (x >>= next) := by
  cases x with
  | ok a => exact hnext a hx
  | error e => exact hx

theorem Yields.of_ok {P : α → Prop} {x : Except ReadError α} {a : α} (hx : Yields P x)
    (h : x = .ok a) : P a := by
  subst h
  exact hx

theorem Yields.of_error {P : α → Prop} {x : Except ReadError α} {e : ReadError} (hx : Yields P x)
    (h : x = .error e) : e.IsComplaint := by
  subst h
  exact hx

end

variable {ts : List Token}

def IsEnded (ts : List Token) : Prop :=
  ∃ us last, ts = us ++ [stop last]

theorem IsEnded.tail {t : Token} (h : IsEnded (t :: ts)) (ht : t.isStop = false) :
    IsEnded ts := by
  obtain ⟨us, last, heq⟩ := h
  cases us with
  | nil =>
    cases heq
    contradiction
  | cons u us =>
    obtain ⟨-, rfl⟩ := List.cons.inj heq
    exact ⟨us, last, rfl⟩

theorem isEnded_of_tokenize {text : String} (h : Token.tokenize text = .ok ts) : IsEnded ts := by
  obtain ⟨front, last, rfl, -⟩ := Token.exists_stop_of_scan (Token.scan_of_tokenize h)
  exact ⟨front, last, rfl⟩

theorem IsEnded.terminated_eq (h : IsEnded ts) : Token.terminated ts = ts := by
  obtain ⟨us, last, rfl⟩ := h
  exact Token.terminated_append_stop us last

theorem takeValue_yields (what : String) (ts : List Token) :
    Yields (fun r => ts = r.1 :: r.2 ∧ r.1.isValue = true) (takeValue what ts) := by
  cases ts with
  | nil => trivial
  | cons t rest =>
    rw [takeValue]
    split
    · next ht => exact ⟨rfl, ht⟩
    · trivial

theorem takeName_yields (what : String) (ts : List Token) :
    Yields (fun r => ts = r.1 :: r.2 ∧ r.1.isValue = true ∧ r.1.text ≠ "")
      (takeName what ts) := by
  apply (takeValue_yields what ts).bind
  intro (t, rest) ⟨hts, ht⟩
  dsimp only
  split
  · trivial
  · next hne => exact ⟨hts, ht, hne⟩

theorem takeEquals_yields (ts : List Token) :
    Yields (fun rest => ∃ t, ts = t :: rest ∧ t.isPunctuation "=" = true) (takeEquals ts) := by
  cases ts with
  | nil => trivial
  | cons t rest =>
    rw [takeEquals]
    split
    · next ht => exact ⟨t, rfl, ht⟩
    · trivial

theorem isStop_of_isModifier {t : Token} (h : isModifier t = true) : t.isStop = false := by
  simp only [isModifier, Token.isWord, Bool.or_eq_true, Bool.and_eq_true, beq_iff_eq] at h
  obtain ⟨hkind, -⟩ | ⟨hkind, -⟩ := h <;> simp [Token.isStop, hkind]

theorem isStop_of_isPunctuation {t : Token} {symbol : String}
    (h : t.isPunctuation symbol = true) : t.isStop = false := by
  obtain ⟨hkind, -⟩ := Filter.isPunctuation_iff.mp h
  simp [Token.isStop, hkind]

theorem leadingModifier_cases (ts : List Token) :
    (leadingModifier ts).2 = ts ∨
      ∃ marker, isModifier marker = true ∧ ts = marker :: (leadingModifier ts).2 := by
  cases ts with
  | nil => exact .inl rfl
  | cons t rest =>
    rw [leadingModifier]
    split
    · next hmark =>
      rw [Bool.and_eq_true] at hmark
      exact .inr ⟨t, hmark.1, rfl⟩
    · exact .inl rfl

theorem trailingModifier_cases (ts : List Token) :
    (trailingModifier ts).2 = ts ∨
      ∃ marker, isModifier marker = true ∧ ts = marker :: (trailingModifier ts).2 := by
  cases ts with
  | nil => exact .inl rfl
  | cons t rest =>
    rw [trailingModifier]
    split
    · next hmark => exact .inr ⟨t, hmark, rfl⟩
    · exact .inl rfl

theorem IsEnded.of_marked {us : List Token} (h : IsEnded ts)
    (hus : us = ts ∨ ∃ marker, isModifier marker = true ∧ ts = marker :: us) : IsEnded us := by
  obtain rfl | ⟨marker, hmarker, rfl⟩ := hus
  · exact h
  · exact h.tail (isStop_of_isModifier hmarker)

theorem IsEnded.leadingModifier (h : IsEnded ts) : IsEnded (leadingModifier ts).2 :=
  h.of_marked (leadingModifier_cases ts)

theorem IsEnded.trailingModifier (h : IsEnded ts) : IsEnded (trailingModifier ts).2 :=
  h.of_marked (trailingModifier_cases ts)

/-- A field's key is new and not empty, and it is the text of the token behind the marking word, if
there is one. -/
theorem takeField_yields (seen : List String) (ts : List Token) :
    Yields (fun r => r.1.key ≠ "" ∧ r.1.key ∉ seen ∧
      (∃ key rest, (leadingModifier ts).2 = key :: rest ∧ key.isValue = true ∧
        key.text = r.1.key) ∧
      (IsEnded ts → IsEnded r.2)) (takeField seen ts) := by
  rw [takeField]
  apply (takeName_yields _ _).bind
  intro (key, rest) ⟨hkey, hvalue, hne⟩
  dsimp only
  split
  · trivial
  next hseen =>
  apply (takeEquals_yields _).bind
  intro rest' ⟨t, ht, hsign⟩
  apply (takeValue_yields _ _).bind
  intro (value, rest'') ⟨hvalues, hv⟩
  refine ⟨hne, hseen, ⟨key, rest, hkey, hvalue, rfl⟩, ?_⟩
  -- Each token that was taken is none of the sentinels.
  intro hts
  have hleading := hts.leadingModifier
  rw [show (RecordSpec.leadingModifier ts).2 = key :: rest from hkey] at hleading
  have htrailing := (hleading.tail (Filter.isStop_of_isValue hvalue)).trailingModifier
  rw [show (RecordSpec.trailingModifier rest).2 = t :: rest' from ht] at htrailing
  have hrest' := htrailing.tail (isStop_of_isPunctuation hsign)
  rw [hvalues] at hrest'
  exact hrest'.tail (Filter.isStop_of_isValue hv)

theorem takeFields_yields (budget : Nat) (seen : List String) (ts : List Token) :
    Yields (fun fs => (∀ f ∈ fs, f.key ≠ "" ∧ f.key ∉ seen) ∧ (fs.map Field.key).Nodup)
      (takeFields budget seen ts) := by
  induction budget generalizing seen ts with
  | zero => exact ⟨by simp, by simp⟩
  | succ budget ih =>
    rw [takeFields]
    split
    · exact ⟨by simp, by simp⟩
    apply (takeField_yields seen ts).bind
    intro (f, rest) ⟨hne, hseen, _⟩
    apply (ih (f.key :: seen) rest).bind
    intro fs ⟨hfs, hnodup⟩
    simp only [List.mem_cons, not_or] at hfs
    constructor
    · intro g hg
      obtain rfl | hg := List.mem_cons.mp hg
      · exact ⟨hne, hseen⟩
      · exact ⟨(hfs g hg).1, (hfs g hg).2.2⟩
    · refine List.nodup_cons.mpr ⟨?_, hnodup⟩
      intro hmem
      obtain ⟨g, hg, hkey⟩ := List.mem_map.mp hmem
      exact (hfs g hg).2.1 hkey

/-- What a text is read as can be stored; all other texts are complained about. -/
theorem parse_yields (text : String) :
    Yields (fun spec => spec.name ≠ "" ∧ (∀ f ∈ spec.fields, f.key ≠ "") ∧
      (spec.fields.map Field.key).Nodup) (RecordSpec.parse text) := by
  rw [RecordSpec.parse]
  split
  case h_2 => trivial
  next ts hts =>
  apply (takeName_yields _ _).bind
  intro (name, rest) ⟨_, _, hne⟩
  apply (takeFields_yields _ _ rest).bind
  intro fs ⟨hfs, hnodup⟩
  exact ⟨hne, fun f hf => (hfs f hf).1, hnodup⟩

end Coffer.RecordSpec
