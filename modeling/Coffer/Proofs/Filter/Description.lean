import Coffer.Proofs.Filter.Acceptance
import Coffer.Proofs.Token.Partition
import Mathlib.Data.List.Infix

/-!
Reading the written form of a filter.

A filter is written with its keys as they are and its values between quotes as they are, and without
parentheses but those it was read with. A key that is one word by itself is read back, and so is a
value in which nothing is taken for a quote or an escape (`unescapes_self`). Put together along the
tree, the written form is read as tokens that spell the filter (`Spells.written`). They spell other
trees too; but a filter that was read is well grouped, and it is read again for that reason.

Main statement: a filter that was read is read from its written form, if its keys are bare and its
values plain (`parse_describe`).
-/

namespace Coffer

theorem Pattern.source_of_ofText {s : String} {p : Pattern} (h : Pattern.ofText s = .ok p) :
    p.source = s := by
  unfold Pattern.ofText at h
  split at h
  · cases h
    rfl
  · cases h

/-! ### Tokens that need no quoting -/

namespace Token

open Text (isBlank isPrintable)

/-- A text that may stand between single quotes as it is: no quote would close it, and no backslash
would take the character behind it literally. -/
structure IsPlain (s : String) : Prop where
  quote : '\'' ∉ s.toList
  pair : ¬['\\', '\\'] <:+: s.toList
  last : s.toList.getLast? ≠ some '\\'

theorem isPlain_iff (s : String) :
    IsPlain s ↔ '\'' ∉ s.toList ∧ ¬['\\', '\\'] <:+: s.toList ∧ s.toList.getLast? ≠ some '\\' := by
  constructor
  · intro ⟨hquote, hpair, hlast⟩
    exact ⟨hquote, hpair, hlast⟩
  · intro ⟨hquote, hpair, hlast⟩
    exact ⟨hquote, hpair, hlast⟩

instance (s : String) : Decidable (IsPlain s) :=
  decidable_of_iff _ (isPlain_iff s).symm

theorem unescapes_self {cs : List Char} (hlegible : AreLegible cs) (hquote : '\'' ∉ cs)
    (hpair : ¬['\\', '\\'] <:+: cs) (hlast : cs.getLast? ≠ some '\\') :
    Unescapes '\'' cs cs := by
  induction cs with
  | nil => exact .nil
  | cons c cs ih =>
    obtain ⟨hc, hlegible⟩ := areLegible_cons.mp hlegible
    rw [List.mem_cons, not_or] at hquote
    have hpair' : ¬['\\', '\\'] <:+: cs :=
      fun h => hpair (h.trans (List.suffix_cons c cs).isInfix)
    have hlast' : cs.getLast? ≠ some '\\' := by
      intro h
      exact hlast (by rw [List.getLast?_cons, h]; rfl)
    have hbody := ih hlegible hquote.2 hpair' hlast'
    by_cases hb : c = '\\'
    · -- a backslash is not the last character, and none follows it
      subst hb
      cases cs with
      | nil => exact absurd rfl hlast
      | cons d ds =>
        refine .backslash ?_ hbody
        rintro (rfl | rfl)
        · exact hquote.2 List.mem_cons_self
        · exact hpair ⟨[], ds, rfl⟩
    · exact .plain hb (Ne.symm hquote.1) hc hbody

variable {rest : List Char}

theorem Reads.plain {s : String} (hs : IsPlain s) (hlegible : IsLegible s) :
    Reads ('\'' :: (s.toList ++ ['\''])) [(.literal, s)] rest := by
  have htext := unescapes_self hlegible hs.quote hs.pair hs.last
  have hspan : IsSpan rest ('\'' :: (s.toList ++ ['\''])) .literal s.toList :=
    .literal (by decide) htext
  simpa using Reads.span hspan

theorem Reads.keyword {word : String} (hword : word ∈ keywords) (hrest : EndsWord rest) :
    Reads word.toList [(.keyword, word)] rest := by
  have hall : ∀ word ∈ keywords, word.toList ≠ [] ∧
      (word.toList.all fun c => isWordChar c && isPrintable c) = true ∧
      word.toList.head? ≠ some '$' ∧ word.toList ≠ ['.'] ∧
      Text.lowerWord word.toList = word.toList := by decide
  obtain ⟨hnonempty, hchars, hdollar, hdot, hlower⟩ := hall word hword
  simp only [List.all_eq_true, Bool.and_eq_true] at hchars
  have hreserved : String.ofList (Text.lowerWord word.toList) ∈ keywords := by
    rwa [hlower, String.ofList_toList]
  have hspan := IsSpan.keyword ⟨hnonempty, hchars, hdollar, hdot⟩ hrest hreserved
  rw [hlower] at hspan
  simpa using Reads.span hspan

/-- A reserved word with a blank on either side. -/
theorem Reads.between {word gap : String} (hword : word ∈ keywords)
    (hgap : gap = " " ++ word ++ " ") (rest : List Char) :
    Reads gap.toList [(.keyword, word)] rest := by
  have hblank : ∀ c ∈ [' '], isBlank c = true := List.forall_mem_singleton.mpr (by decide)
  have hword : Reads word.toList [(.keyword, word)] ([' '] ++ rest) :=
    .keyword hword (endsWord_cons.mpr (by decide))
  have hread := (Reads.blanks hblank).append (hword.append (Reads.blanks hblank))
  simpa [hgap] using hread

end Token

namespace Filter

open Token (IsBare IsLegible IsPlain Kind Reads lexeme EndsWord endsWord_cons)

variable {ts us : List Token} {s : Subject} {c : Comparison} {o v : Token} {e : Filter}

/-! ### Predicates -/

theorem SpellsComparison.value_eq (h : SpellsComparison o v c) :
    v.isValue = true ∧ c.value = v.text := by
  cases h with
  | is _ hv | contains _ hv => exact ⟨hv, rfl⟩
  | fits _ hv hp => exact ⟨hv, Pattern.source_of_ofText hp⟩

theorem SpellsComparison.respell {o' v' : Token} (h : SpellsComparison o v c)
    (ho : o'.isKeyword c.word = true) (hv : v'.isValue = true) (htext : v'.text = c.value) :
    SpellsComparison o' v' c := by
  have hvalue := htext.trans h.value_eq.2
  cases h with
  | is _ _ =>
    rw [← hvalue]
    exact .is ho hv
  | contains _ _ =>
    rw [← hvalue]
    exact .contains ho hv
  | fits _ _ hp => exact .fits ho hv (hvalue ▸ hp)

theorem Comparison.word_mem_keywords (c : Comparison) : c.word ∈ Token.keywords := by
  cases c <;> simp [Comparison.word, Token.keywords]

theorem reads_subject (hkey : ∀ key, s = .field key → IsBare key) :
    ∃ l, (∀ rest, EndsWord rest → Reads s.text.toList [l] rest) ∧
      ∀ t, lexeme t = l → SpellsSubject [t] s := by
  cases s with
  | name =>
    refine ⟨(.punctuation, "."), fun rest hrest => .span (.dot hrest), fun t ht => .dot ?_⟩
    obtain ⟨hkind, htext⟩ := Prod.mk.inj ht
    simp [Token.isPunctuation, hkind, htext]
  | field key =>
    refine ⟨(.identifier, key), fun rest hrest => .bare (hkey key rfl) hrest, fun t ht => ?_⟩
    obtain ⟨hkind, rfl⟩ := Prod.mk.inj ht
    exact .field (by simp [Token.isValue, hkind])

/-! ### Filters -/

/-- Whatever stands behind it, the text is read as tokens that spell the filter. -/
def Written (text : String) (e : Filter) : Prop :=
  ∃ ls, (∀ rest, Reads text.toList ls rest) ∧ ∀ ts, ts.map lexeme = ls → Spells ts e

theorem isKeyword_of_lexeme {word : String} (h : lexeme o = (.keyword, word)) :
    o.isKeyword word = true := by
  obtain ⟨hkind, htext⟩ := Prod.mk.inj h
  simp [Token.isKeyword, hkind, htext]

theorem written_atom (hc : SpellsComparison o v c)
    (hkey : ∀ key, s = .field key → IsBare key) (hplain : IsPlain c.value)
    (hlegible : IsLegible c.value) : Written (Predicate.text ⟨s, c⟩) (.atom ⟨s, c⟩) := by
  obtain ⟨l, hsubject, hspells⟩ := reads_subject hkey
  refine ⟨[l, (.keyword, c.word), (.literal, c.value)], ?_, ?_⟩
  · intro rest
    have hvalue : Reads _ _ rest := .plain hplain hlegible
    have hends : EndsWord ((" " ++ c.word ++ " ").toList ++
        '\'' :: (c.value.toList ++ ['\'']) ++ rest) := by
      simpa using endsWord_cons.mpr (by decide)
    have hcomparison := (Reads.between (Comparison.word_mem_keywords c) rfl _).append hvalue
    have hread := (hsubject _ hends).append hcomparison
    simpa [Predicate.text] using hread
  · intro us hus
    obtain ⟨t, _, rfl, ht, hrest⟩ := List.map_eq_cons_iff.mp hus
    obtain ⟨o', _, rfl, ho, hrest'⟩ := List.map_eq_cons_iff.mp hrest
    obtain ⟨v', _, rfl, hv, hnil⟩ := List.map_eq_cons_iff.mp hrest'
    obtain rfl := List.map_eq_nil_iff.mp hnil
    obtain ⟨hkind, htext⟩ := Prod.mk.inj hv
    have hcomparison := hc.respell (isKeyword_of_lexeme ho) (by simp [Token.isValue, hkind]) htext
    exact .atom (hspells t ht) hcomparison

theorem exists_of_joined {ls ls' : List (Kind × String)} {l : Kind × String}
    (h : us.map lexeme = ls ++ l :: ls') :
    ∃ vs o ws, us = vs ++ o :: ws ∧ vs.map lexeme = ls ∧ lexeme o = l ∧ ws.map lexeme = ls' := by
  obtain ⟨vs, rest, rfl, hvs, hrest⟩ := List.map_eq_append_iff.mp h
  obtain ⟨o, ws, rfl, ho, hws⟩ := List.map_eq_cons_iff.mp hrest
  exact ⟨vs, o, ws, rfl, hvs, ho, hws⟩

theorem written_joined {a b word gap : String} {l r : Filter} (hword : word ∈ Token.keywords)
    (hgap : gap = " " ++ word ++ " ") (hl : Written a l) (hr : Written b r)
    (hspells : ∀ vs o ws, Spells vs l → o.isKeyword word = true → Spells ws r →
      Spells (vs ++ o :: ws) e) : Written (a ++ gap ++ b) e := by
  obtain ⟨ls, ha, hls⟩ := hl
  obtain ⟨ls', hb, hls'⟩ := hr
  refine ⟨ls ++ (.keyword, word) :: ls', ?_, ?_⟩
  · intro rest
    have hread := (ha _).append ((Reads.between hword hgap _).append (hb rest))
    simpa only [String.toList_append, List.append_assoc, List.singleton_append] using hread
  · intro us hus
    obtain ⟨vs, o, ws, rfl, hvs, ho, hws⟩ := exists_of_joined hus
    exact hspells vs o ws (hls vs hvs) (isKeyword_of_lexeme ho) (hls' ws hws)

theorem written_group {a : String} (he : Written a e) : Written ("(" ++ a ++ ")") (.group e) := by
  obtain ⟨ls, ha, hls⟩ := he
  refine ⟨(.punctuation, "(") :: (ls ++ [(.punctuation, ")")]), ?_, ?_⟩
  · intro rest
    have hopen : Reads ['('] [(.punctuation, "(")] (a.toList ++ [')'] ++ rest) :=
      .span (.sign (by decide))
    have hclose : Reads [')'] [(.punctuation, ")")] rest := .span (.sign (by decide))
    have hread := hopen.append ((ha _).append hclose)
    simpa using hread
  · intro us hus
    obtain ⟨l, _, rfl, hl, hrest⟩ := List.map_eq_cons_iff.mp hus
    obtain ⟨vs, r, _, rfl, hvs, hr, hnil⟩ := exists_of_joined hrest
    obtain rfl := List.map_eq_nil_iff.mp hnil
    obtain ⟨hlkind, hltext⟩ := Prod.mk.inj hl
    obtain ⟨hrkind, hrtext⟩ := Prod.mk.inj hr
    exact .group (by simp [Token.isPunctuation, hlkind, hltext]) (hls vs hvs)
      (by simp [Token.isPunctuation, hrkind, hrtext])

/-- The written form of a filter is read as tokens that spell it. -/
theorem Spells.written (h : Spells ts e) (hlegible : ∀ t ∈ ts, t.isValue = true → IsLegible t.text)
    (hkeys : ∀ p ∈ e.atoms, ∀ key, p.subject = .field key → IsBare key)
    (hvalues : ∀ p ∈ e.atoms, IsPlain p.comparison.value) : Written e.describe e := by
  induction h with
  | @atom _ _ v _ _ _ hc =>
    -- The value stood in the text that was read, so all of it can be shown.
    simp only [Formula.atoms, List.mem_singleton, forall_eq] at hkeys hvalues
    obtain ⟨hv, hvalue⟩ := hc.value_eq
    have hshown := hlegible v (by simp) hv
    exact written_atom hc hkeys hvalues (hvalue ▸ hshown)
  | and _ _ _ ihl ihr =>
    simp only [Formula.atoms, List.forall_mem_append, List.forall_mem_cons]
      at hlegible hkeys hvalues
    have hl := ihl hlegible.1 hkeys.1 hvalues.1
    have hr := ihr hlegible.2.2 hkeys.2 hvalues.2
    exact written_joined (show "and" ∈ Token.keywords by decide) (by decide) hl hr
      fun _ _ _ => .and
  | or _ _ _ ihl ihr =>
    simp only [Formula.atoms, List.forall_mem_append, List.forall_mem_cons]
      at hlegible hkeys hvalues
    have hl := ihl hlegible.1 hkeys.1 hvalues.1
    have hr := ihr hlegible.2.2 hkeys.2 hvalues.2
    exact written_joined (show "or" ∈ Token.keywords by decide) (by decide) hl hr
      fun _ _ _ => .or
  | group _ _ _ ih =>
    simp only [List.cons_append, List.forall_mem_append, List.forall_mem_cons] at hlegible
    exact written_group (ih hlegible.2.1 hkeys hvalues)

/-- A well-grouped filter is read from a text that is read as tokens that spell it. -/
theorem parse_of_written {text : String} (h : Written text e) (hgrouped : e.WellGrouped) :
    parse text = .ok e := by
  obtain ⟨ls, hreads, hback⟩ := h
  obtain ⟨us, last, hus, hls⟩ := (hreads []).tokenize
  obtain ⟨front, last', hfront, hstops⟩ := Token.exists_stop_of_scan (Token.scan_of_tokenize hus)
  obtain ⟨rfl, -⟩ := List.append_inj' hfront rfl
  rw [parse, hus]
  exact IsTree.ofTokens ⟨hback us hls, hgrouped⟩ rfl hstops

theorem isTree_of_parse {text : String} (h : parse text = .ok e) :
    ∃ ts stop, Token.tokenize text = .ok (ts ++ [stop]) ∧ IsTree ts e := by
  obtain ⟨ts, last, htokens, -, htree⟩ := exists_tree_of_parse h
  exact ⟨ts, .stop last, htokens, htree⟩

/-- **A filter that was read is read from its written form**, if each of its keys is one word by
itself, and no value has a single quote in it, two backslashes next to each other, or a backslash at
its end. -/
theorem parse_describe {text : String} (h : parse text = .ok e)
    (hkeys : ∀ p ∈ e.atoms, ∀ key, p.subject = .field key → IsBare key)
    (hvalues : ∀ p ∈ e.atoms, IsPlain p.comparison.value) : parse e.describe = .ok e := by
  obtain ⟨ts, stop, htokens, hspells, hgrouped⟩ := isTree_of_parse h
  have hlegible : ∀ t ∈ ts, t.isValue = true → IsLegible t.text := by
    intro t ht
    exact Token.isLegible_of_tokenize htokens (List.mem_append_left _ ht)
  -- Other trees may be written in the same way, but none of them is well grouped.
  exact parse_of_written (hspells.written hlegible hkeys hvalues) hgrouped

/-- Values are quoted, and the parentheses stay, in whatever way the filter was typed. -/
theorem parse_describe_typed :
    let text := "user IS me or ($Name contains \"a b\" and site is 'x\\y')"
    let written := "user is 'me' or (. contains 'a b' and site is 'x\\y')"
    ∃ e, parse text = .ok e ∧ e.describe = written ∧
      (∀ p ∈ e.atoms, ∀ key, p.subject = .field key → IsBare key) ∧
      (∀ p ∈ e.atoms, IsPlain p.comparison.value) ∧ parse written = .ok e := by
  intro text written
  let e : Filter := .or (.atom ⟨.field "user", .is "me"⟩)
    (.group (.and (.atom ⟨.name, .contains "a b"⟩) (.atom ⟨.field "site", .is "x\\y"⟩)))
  have hread : parse text = .ok e := by decide +kernel
  have hwritten : e.describe = written := by decide
  have hkeys : ∀ p ∈ e.atoms, ∀ key, p.subject = .field key → IsBare key := by
    have huser : IsBare "user" := by decide
    have hsite : IsBare "site" := by decide
    simp [e, Formula.atoms, huser, hsite]
  have hvalues : ∀ p ∈ e.atoms, IsPlain p.comparison.value := by decide
  exact ⟨e, hread, hwritten, hkeys, hvalues, hwritten ▸ parse_describe hread hkeys hvalues⟩

end Filter

end Coffer
