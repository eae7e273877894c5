import Coffer.Proofs.RecordSpec
import Mathlib.Logic.ExistsUnique

/-!
Record specs are read exactly as their grammar says.

The grammar is ambiguous: a marking word may be a key as well, so that `sensitive secret = x` is the
key `secret` with a mark before it, or the key `sensitive` with a mark behind it. The reader looks
one token ahead and takes such a word for the key only directly before a `=`
(`FieldTokens.IsSettled`). This never leads it astray. Whatever can be divided into fields at all
can be divided in exactly one settled way, because two divisions of one field differ only in which of
two marking words is the key (`FieldTokens.IsField.exists_settled`), and because a settled field is
what the readers of marks find in its tokens, whatever stands behind (`FieldTokens.append_inj`).

Main statement: a record spec is read from tokens exactly if their settled division has pairwise
distinct keys, and it consists of the fields of that division (`ofTokens_eq_ok_iff_settled`).
-/

namespace Coffer.RecordSpec

/-! ### Fields as they are written -/

/-- The tokens of one field: a mark before or behind the key, or both, and the value behind a sign.
-/
structure FieldTokens where
  before : Option Token
  key : Token
  behind : Option Token
  sign : Token
  value : Token

namespace FieldTokens

variable {x y : FieldTokens} {rest rest' : List Token}

def tokens (x : FieldTokens) : List Token :=
  x.before.toList ++ x.key :: (x.behind.toList ++ [x.sign, x.value])

def field (x : FieldTokens) : Field :=
  ⟨x.key.text, x.value.text, x.before.isSome || x.behind.isSome⟩

structure IsField (x : FieldTokens) : Prop where
  before : ∀ t ∈ x.before, isModifier t = true
  key : x.key.isValue = true
  key_ne : x.key.text ≠ ""
  behind : ∀ t ∈ x.behind, isModifier t = true
  sign : x.sign.isPunctuation "=" = true
  value : x.value.isValue = true

/-- A marking word that comes first is the key exactly if a `=` follows it directly. -/
def IsSettled (x : FieldTokens) : Prop :=
  ∀ t u rest, x.tokens = t :: u :: rest → isModifier t = true →
    (x.before = none ↔ u.isPunctuation "=" = true)

theorem tokens_append (x : FieldTokens) (rest : List Token) : x.tokens ++ rest =
    x.before.toList ++ x.key :: (x.behind.toList ++ x.sign :: x.value :: rest) := by
  simp [tokens]

theorem length_tokens (x : FieldTokens) : 3 ≤ x.tokens.length := by
  simp [tokens]
  omega

theorem isValue_of_isModifier {t : Token} (h : isModifier t = true) :
    t.isValue = true ∧ t.text ≠ "" := by
  simp only [isModifier, Token.isWord, Bool.or_eq_true, Bool.and_eq_true, beq_iff_eq] at h
  constructor
  · obtain ⟨hkind, -⟩ | ⟨hkind, -⟩ := h <;> simp [Token.isValue, hkind]
  · intro hempty
    rw [hempty] at h
    obtain ⟨-, hword⟩ | ⟨-, hword⟩ := h <;> exact absurd hword (by decide)

theorem IsField.isStop (h : x.IsField) : ∀ t ∈ x.tokens, t.isStop = false := by
  intro t ht
  simp only [tokens, List.mem_append, List.mem_cons, Option.mem_toList, List.not_mem_nil,
    or_false] at ht
  obtain hbefore | rfl | hbehind | rfl | rfl := ht
  · exact isStop_of_isModifier (h.before t hbefore)
  · exact Filter.isStop_of_isValue h.key
  · exact isStop_of_isModifier (h.behind t hbehind)
  · exact isStop_of_isPunctuation h.sign
  · exact Filter.isStop_of_isValue h.value

/-! ### Settled fields -/

/-- A settled field has the mark before its key that the reader finds. -/
theorem leadingModifier_tokens (h : x.IsField) (hs : x.IsSettled) (rest : List Token) :
    leadingModifier (x.tokens ++ rest) =
      (x.before.isSome, x.key :: (x.behind.toList ++ x.sign :: x.value :: rest)) := by
  obtain ⟨before, key, behind, sign, value⟩ := x
  cases before with
  | some t =>
    simp only [tokens_append, Option.toList_some, List.singleton_append]
    exact leadingModifier_marked (h.before t rfl) h.key
  | none =>
    cases behind with
    | none => exact leadingModifier_plain h.sign
    | some b =>
      -- Behind the key stands a mark and not the sign, so that the key is no marking word.
      have hvalue := (isValue_of_isModifier (h.behind b rfl)).1
      have hsign := Filter.not_isPunctuation_of_isValue hvalue "="
      have hplain : isModifier key = false := by
        by_contra hmark
        rw [Bool.not_eq_false] at hmark
        have hfollows := (hs key b _ rfl hmark).mp rfl
        rw [hsign] at hfollows
        cases hfollows
      simp [tokens_append, leadingModifier, hplain]

theorem trailingModifier_tokens (h : x.IsField) (rest : List Token) :
    trailingModifier (x.behind.toList ++ x.sign :: rest) = (x.behind.isSome, x.sign :: rest) := by
  cases hbehind : x.behind with
  | none => simp [trailingModifier, not_isModifier_of_isPunctuation h.sign]
  | some t => simp [trailingModifier, h.behind t hbehind]

/-- Of two settled fields at one place, both are the same. -/
theorem append_inj (hx : x.IsField) (hsx : x.IsSettled) (hy : y.IsField) (hsy : y.IsSettled)
    (h : x.tokens ++ rest = y.tokens ++ rest') : x = y ∧ rest = rest' := by
  have hleading := leadingModifier_tokens hx hsx rest
  rw [h, leadingModifier_tokens hy hsy rest'] at hleading
  obtain ⟨hbefore, htail⟩ := Prod.mk.inj hleading
  obtain ⟨hkey, hbehind⟩ := List.cons.inj htail
  have htrailing := trailingModifier_tokens hx (x.value :: rest)
  rw [← hbehind, trailingModifier_tokens hy] at htrailing
  obtain ⟨hsome, hvalues⟩ := Prod.mk.inj htrailing
  obtain ⟨hsign, hvalues⟩ := List.cons.inj hvalues
  obtain ⟨hvalue, hrest⟩ := List.cons.inj hvalues
  -- The marks are at the same places, and so they are the same tokens.
  rw [tokens_append, tokens_append, htail] at h
  have hbefores := congrArg List.head? (List.append_cancel_right h)
  rw [hsign, hvalue, hrest] at hbehind
  have hbehinds := congrArg List.head? (List.append_cancel_right hbehind)
  rw [Option.head?_toList, Option.head?_toList] at hbefores hbehinds
  obtain ⟨before, key, behind, sign, value⟩ := x
  obtain ⟨before', key', behind', sign', value'⟩ := y
  simp only at *
  subst hbefores hbehinds hkey hsign hvalue hrest
  exact ⟨rfl, rfl⟩

/-- The tokens of a field are those of a settled field: if the key is a marking word and the mark is
behind it, then it is the other way around. -/
theorem IsField.exists_settled (h : x.IsField) :
    ∃ y : FieldTokens, y.IsField ∧ y.IsSettled ∧ y.tokens = x.tokens := by
  by_cases hs : x.IsSettled
  · exact ⟨x, h, hs, rfl⟩
  obtain ⟨before, key, behind, sign, value⟩ := x
  simp only [IsSettled, tokens, not_forall] at hs
  obtain ⟨t, u, rest, htokens, hmark, hne⟩ := hs
  cases before with
  | some b =>
    -- A mark before the key is settled, since a key is no sign.
    obtain ⟨-, htail⟩ := List.cons.inj htokens
    obtain ⟨rfl, -⟩ := List.cons.inj htail
    rw [Filter.not_isPunctuation_of_isValue h.key] at hne
    exact absurd (by simp) hne
  | none =>
    cases behind with
    | none =>
      -- So is a key without a mark, since the sign is behind it.
      obtain ⟨-, htail⟩ := List.cons.inj htokens
      obtain ⟨rfl, -⟩ := List.cons.inj htail
      rw [h.sign] at hne
      exact absurd (by simp) hne
    | some b =>
      obtain ⟨rfl, -⟩ := List.cons.inj htokens
      obtain ⟨hvalue, htext⟩ := isValue_of_isModifier (h.behind b rfl)
      have hsign := Filter.not_isPunctuation_of_isValue hvalue "="
      refine ⟨⟨some key, b, none, sign, value⟩, ⟨?_, hvalue, htext, nofun, h.sign, h.value⟩, ?_,
        rfl⟩
      · rintro _ ⟨⟩
        exact hmark
      · intro t u rest htokens _
        obtain ⟨-, htail⟩ := List.cons.inj htokens
        obtain ⟨rfl, -⟩ := List.cons.inj htail
        simp [hsign]

end FieldTokens

/-! ### Single fields -/

variable {ts : List Token} {seen : List String}

/-- The mark that is taken before a key, and the rule it is taken by. -/
theorem exists_of_leadingModifier (ts : List Token) : ∃ before : Option Token,
    (leadingModifier ts).1 = before.isSome ∧ ts = before.toList ++ (leadingModifier ts).2 ∧
    (∀ t ∈ before, isModifier t = true) ∧
    ∀ t u rest, ts = t :: u :: rest → isModifier t = true →
      (before = none ↔ u.isPunctuation "=" = true) := by
  cases ts with
  | nil => exact ⟨none, rfl, rfl, nofun, nofun⟩
  | cons t rest =>
    rw [leadingModifier]
    split
    · next h =>
      rw [Bool.and_eq_true, Bool.not_eq_true'] at h
      refine ⟨some t, rfl, rfl, ?_, ?_⟩
      · rintro _ ⟨⟩
        exact h.1
      · rintro _ u us ⟨⟩ _
        have hsign : u.isPunctuation "=" = false := h.2
        simp [hsign]
    · next h =>
      refine ⟨none, rfl, rfl, nofun, ?_⟩
      rintro _ u us ⟨⟩ hmark
      rw [hmark, Bool.true_and, Bool.not_eq_true, Bool.not_eq_false'] at h
      exact ⟨fun _ => h, fun _ => rfl⟩

theorem exists_of_trailingModifier (ts : List Token) : ∃ behind : Option Token,
    (trailingModifier ts).1 = behind.isSome ∧ ts = behind.toList ++ (trailingModifier ts).2 ∧
    ∀ t ∈ behind, isModifier t = true := by
  cases ts with
  | nil => exact ⟨none, rfl, rfl, nofun⟩
  | cons t rest =>
    rw [trailingModifier]
    split
    · next h =>
      refine ⟨some t, rfl, rfl, ?_⟩
      rintro _ ⟨⟩
      exact h
    · exact ⟨none, rfl, rfl, nofun⟩

theorem takeField_yields_settled (seen : List String) (ts : List Token) :
    Yields (fun r => ∃ x : FieldTokens, x.IsField ∧ x.IsSettled ∧ x.key.text ∉ seen ∧
      ts = x.tokens ++ r.2 ∧ r.1 = x.field) (takeField seen ts) := by
  obtain ⟨before, hmarked, hts, hbefore, hsettled⟩ := exists_of_leadingModifier ts
  rw [takeField]
  apply (takeName_yields _ _).bind
  rintro ⟨key, rest⟩ ⟨hkey, hvalue, hne⟩
  dsimp only
  split
  · trivial
  next hseen =>
  obtain ⟨behind, halso, hrest, hbehind⟩ := exists_of_trailingModifier rest
  apply (takeEquals_yields _).bind
  rintro rest' ⟨sign, hsign, hequals⟩
  apply (takeValue_yields _ _).bind
  rintro ⟨value, rest''⟩ ⟨hvalues, hv⟩
  -- What was taken, part by part; the marks are those that were found on either side of the key.
  let x : FieldTokens := ⟨before, key, behind, sign, value⟩
  have htokens : ts = x.tokens ++ rest'' := by
    rw [FieldTokens.tokens_append]
    simp only [x, ← hvalues, ← hsign]
    rw [← hrest, ← hkey]
    exact hts
  refine ⟨x, ⟨hbefore, hvalue, hne, hbehind, hequals, hv⟩, ?_, hseen, htokens, ?_⟩
  · intro t u us hx
    exact hsettled t u (us ++ rest'') (by rw [htokens, hx]; rfl)
  · show Field.mk _ _ ((leadingModifier ts).1 || (trailingModifier rest).1) = Field.mk _ _ _
    rw [hmarked, halso]

theorem FieldTokens.IsField.takeField {x : FieldTokens} (h : x.IsField) (hs : x.IsSettled)
    (hseen : x.key.text ∉ seen) (rest : List Token) :
    takeField seen (x.tokens ++ rest) = .ok (x.field, rest) := by
  simp only [RecordSpec.takeField, leadingModifier_tokens h hs rest, takeName_cons h.key h.key_ne,
    bind, Except.bind]
  simp only [if_neg hseen, trailingModifier_tokens h, takeEquals_cons h.sign,
    takeValue_cons h.value]
  rfl

/-! ### Rows of fields -/

def rowTokens (xs : List FieldTokens) : List Token :=
  xs.flatMap FieldTokens.tokens

theorem rowTokens_cons (x : FieldTokens) (xs : List FieldTokens) :
    rowTokens (x :: xs) = x.tokens ++ rowTokens xs :=
  List.flatMap_cons

theorem rowTokens_cons_ne_nil (x : FieldTokens) (xs : List FieldTokens) :
    rowTokens (x :: xs) ≠ [] := by
  have hlength := x.length_tokens
  rw [rowTokens_cons]
  intro h
  rw [(List.append_eq_nil_iff.mp h).1] at hlength
  cases hlength

/-- Settled fields the keys of which are all different, and none of those seen before. -/
structure IsRow (seen : List String) (xs : List FieldTokens) : Prop where
  isField : ∀ x ∈ xs, x.IsField
  isSettled : ∀ x ∈ xs, x.IsSettled
  distinct : (xs.map (·.key.text)).Nodup
  unseen : ∀ x ∈ xs, x.key.text ∉ seen

theorem isRow_nil (seen : List String) : IsRow seen [] :=
  ⟨by simp, by simp, List.nodup_nil, by simp⟩

theorem isRow_cons {x : FieldTokens} {xs : List FieldTokens} : IsRow seen (x :: xs) ↔
    (x.IsField ∧ x.IsSettled ∧ x.key.text ∉ seen) ∧ IsRow (x.key.text :: seen) xs := by
  constructor
  · intro ⟨hfield, hsettled, hdistinct, hunseen⟩
    rw [List.map_cons, List.nodup_cons] at hdistinct
    rw [List.forall_mem_cons] at hfield hsettled hunseen
    refine ⟨⟨hfield.1, hsettled.1, hunseen.1⟩, hfield.2, hsettled.2, hdistinct.2, ?_⟩
    intro y hy hmem
    obtain heq | hmem := List.mem_cons.mp hmem
    · exact hdistinct.1 (heq ▸ List.mem_map_of_mem hy)
    · exact hunseen.2 y hy hmem
  · intro ⟨⟨hfield, hsettled, hseen⟩, hrow⟩
    refine ⟨List.forall_mem_cons.mpr ⟨hfield, hrow.isField⟩,
      List.forall_mem_cons.mpr ⟨hsettled, hrow.isSettled⟩, ?_, ?_⟩
    · rw [List.map_cons, List.nodup_cons]
      refine ⟨fun hmem => ?_, hrow.distinct⟩
      obtain ⟨y, hy, hkey⟩ := List.mem_map.mp hmem
      exact hrow.unseen y hy (hkey ▸ List.mem_cons_self)
    · refine List.forall_mem_cons.mpr ⟨hseen, fun y hy hmem => ?_⟩
      exact hrow.unseen y hy (List.mem_cons_of_mem _ hmem)

/-- Tokens without a sentinel that begin a list are followed by the rest of what is before it. -/
theorem exists_of_append_stop {us front rest : List Token} {stop : Token}
    (hstop : stop.isStop = true) (hfront : ∀ t ∈ front, t.isStop = false)
    (h : us ++ [stop] = front ++ rest) : ∃ vs, us = front ++ vs ∧ rest = vs ++ [stop] := by
  obtain ⟨vs, hvs, hrest⟩ | ⟨vs, hus, hrest⟩ := List.append_eq_append_iff.mp h
  · cases vs with
    | nil => exact ⟨[], by simpa using hvs.symm, hrest.symm⟩
    | cons v vs =>
      -- The sentinel would be one of the tokens in front.
      obtain ⟨rfl, -⟩ := List.cons.inj hrest
      have hv := hfront stop (by simp [hvs])
      rw [hstop] at hv
      cases hv
  · exact ⟨vs, hus, hrest⟩

theorem takeFields_of_isRow {stop : Token} (hstop : stop.isStop = true) {budget : Nat} :
    ∀ {xs : List FieldTokens} {seen : List String}, IsRow seen xs →
    (rowTokens xs).length < budget →
    takeFields budget seen (rowTokens xs ++ [stop]) = .ok (xs.map FieldTokens.field) := by
  induction budget with
  | zero => exact fun _ hbudget => absurd hbudget (Nat.not_lt_zero _)
  | succ budget ih =>
    intro xs seen hrow hbudget
    cases xs with
    | nil => simp [takeFields, rowTokens, current, hstop, pure, Except.pure]
    | cons x xs =>
      obtain ⟨⟨hfield, hsettled, hseen⟩, hrest⟩ := isRow_cons.mp hrow
      have hlength := x.length_tokens
      rw [rowTokens_cons, List.length_append] at hbudget
      have htake := hfield.takeField hsettled hseen (rowTokens xs ++ [stop])
      have hmore : (current (x.tokens ++ (rowTokens xs ++ [stop]))).isStop = false := by
        obtain ⟨t, us, htokens⟩ := List.exists_cons_of_length_pos (l := x.tokens) (by omega)
        have ht := hfield.isStop t (by simp [htokens])
        simpa [htokens, current] using ht
      rw [rowTokens_cons, List.append_assoc, takeFields, hmore, htake]
      simp only [Bool.false_eq_true, if_false, bind, Except.bind]
      rw [show x.field.key = x.key.text from rfl, ih hrest (by omega)]
      rfl

theorem takeFields_yields_row {stop : Token} (hstop : stop.isStop = true) {budget : Nat} :
    ∀ {ts : List Token} {seen : List String}, (∀ t ∈ ts, t.isStop = false) → ts.length < budget →
    Yields (fun fs => ∃ xs, ts = rowTokens xs ∧ IsRow seen xs ∧ fs = xs.map FieldTokens.field)
      (takeFields budget seen (ts ++ [stop])) := by
  induction budget with
  | zero => exact fun _ hbudget => absurd hbudget (Nat.not_lt_zero _)
  | succ budget ih =>
    intro ts seen hts hbudget
    rw [takeFields]
    cases ts with
    | nil =>
      rw [if_pos (by simpa [current] using hstop)]
      exact ⟨[], rfl, isRow_nil seen, rfl⟩
    | cons t ts =>
      rw [if_neg (by simpa [current] using hts t List.mem_cons_self)]
      apply (takeField_yields_settled seen _).bind
      rintro ⟨f, rest⟩ ⟨x, hfield, hsettled, hseen, htokens, hf⟩
      -- No part of a field is the sentinel, so that is still behind what is left.
      obtain ⟨us, hus, hrest⟩ := exists_of_append_stop hstop hfield.isStop htokens
      have hlength := x.length_tokens
      have hlengths := congrArg List.length hus
      rw [List.length_append] at hlengths
      obtain rfl : f = x.field := hf
      obtain rfl : rest = us ++ [stop] := hrest
      have hus' : ∀ u ∈ us, u.isStop = false := fun u hu =>
        hts u (hus ▸ List.mem_append_right _ hu)
      apply (ih hus' (by omega)).bind
      rintro fs ⟨xs, rfl, hrow, rfl⟩
      refine ⟨x :: xs, hus.trans (rowTokens_cons x xs).symm, ?_, rfl⟩
      exact isRow_cons.mpr ⟨⟨hfield, hsettled, hseen⟩, hrow⟩

/-! ### Whole specs -/

theorem ofTokens_of_isRow {stop name : Token} (hstop : stop.isStop = true)
    (hname : name.isValue = true) (hne : name.text ≠ "") {xs : List FieldTokens}
    (hrow : IsRow [] xs) : ofTokens (name :: rowTokens xs ++ [stop]) =
      .ok ⟨name.text, xs.map FieldTokens.field⟩ := by
  have htake := takeFields_of_isRow hstop hrow
    (show (rowTokens xs).length < (rowTokens xs ++ [stop]).length by simp)
  rw [ofTokens, Token.terminated_append_of_isStop hstop, List.cons_append, takeName_cons hname hne]
  simp only [bind, Except.bind, htake]
  rfl

theorem ofTokens_yields_row {stop : Token} (hstop : stop.isStop = true)
    (hts : ∀ t ∈ ts, t.isStop = false) :
    Yields (fun spec => ∃ name xs, ts = name :: rowTokens xs ∧ name.isValue = true ∧
      name.text ≠ "" ∧ IsRow [] xs ∧ spec = ⟨name.text, xs.map FieldTokens.field⟩)
      (ofTokens (ts ++ [stop])) := by
  rw [ofTokens, Token.terminated_append_of_isStop hstop]
  apply (takeName_yields _ _).bind
  rintro ⟨name, rest⟩ ⟨hrest, hvalue, hne⟩
  have hname : ∀ t ∈ [name], t.isStop = false := by simpa using Filter.isStop_of_isValue hvalue
  obtain ⟨us, rfl, hus⟩ := exists_of_append_stop hstop hname hrest
  obtain rfl : rest = us ++ [stop] := hus
  have hus : ∀ u ∈ us, u.isStop = false := fun u hu => hts u (List.mem_cons_of_mem _ hu)
  apply (takeFields_yields_row hstop hus (by simp)).bind
  rintro fs ⟨xs, rfl, hrow, rfl⟩
  exact ⟨name, xs, rfl, hvalue, hne, hrow, rfl⟩

/-! ### Divisions -/

theorem rowTokens_inj : ∀ {xs ys : List FieldTokens}, (∀ x ∈ xs, x.IsField ∧ x.IsSettled) →
    (∀ y ∈ ys, y.IsField ∧ y.IsSettled) → rowTokens xs = rowTokens ys → xs = ys
  | [], [], _, _, _ => rfl
  | [], y :: ys, _, _, h => absurd h.symm (rowTokens_cons_ne_nil y ys)
  | x :: xs, [], _, _, h => absurd h (rowTokens_cons_ne_nil x xs)
  | x :: xs, y :: ys, hxs, hys, h => by
    rw [List.forall_mem_cons] at hxs hys
    rw [rowTokens_cons, rowTokens_cons] at h
    obtain ⟨rfl, hrest⟩ := FieldTokens.append_inj hxs.1.1 hxs.1.2 hys.1.1 hys.1.2 h
    rw [rowTokens_inj hxs.2 hys.2 hrest]

/-- Any fields can be divided anew so that all of them are settled. -/
theorem exists_settled : ∀ {xs : List FieldTokens}, (∀ x ∈ xs, x.IsField) →
    ∃ ys : List FieldTokens, (∀ y ∈ ys, y.IsField ∧ y.IsSettled) ∧ rowTokens ys = rowTokens xs
  | [], _ => ⟨[], by simp, rfl⟩
  | x :: xs, h => by
    rw [List.forall_mem_cons] at h
    obtain ⟨y, hfield, hsettled, htokens⟩ := h.1.exists_settled
    obtain ⟨ys, hys, hrest⟩ := exists_settled h.2
    refine ⟨y :: ys, List.forall_mem_cons.mpr ⟨⟨hfield, hsettled⟩, hys⟩, ?_⟩
    rw [rowTokens_cons, rowTokens_cons, htokens, hrest]

structure IsDivision (ts : List Token) (name : Token) (xs : List FieldTokens) : Prop where
  tokens : ts = name :: rowTokens xs
  isValue : name.isValue = true
  name_ne : name.text ≠ ""
  isField : ∀ x ∈ xs, x.IsField

/-- **Record specs are read exactly as their grammar says.** From tokens with the sentinel behind
them a record spec is read exactly if they are a name and settled fields with pairwise distinct
keys; it has the name, and the fields in their order, each sensitive exactly if it has a mark. And
however tokens can be divided into a name and fields, there is exactly one way with all fields
settled. The keys are those of the one settled division: `sensitive secret = x` is about `secret`,
and no other `secret` may follow. -/
theorem ofTokens_eq_ok_iff_settled (ts : List Token) (stop : Token) (hstop : stop.isStop = true)
    (hts : ∀ t ∈ ts, t.isStop = false) :
    (∀ spec, ofTokens (ts ++ [stop]) = .ok spec ↔ ∃ name xs, IsDivision ts name xs ∧
      (∀ x ∈ xs, x.IsSettled) ∧ (xs.map (·.key.text)).Nodup ∧
      spec = ⟨name.text, xs.map FieldTokens.field⟩) ∧
    (∀ name xs, IsDivision ts name xs →
      ∃! ys, IsDivision ts name ys ∧ ∀ y ∈ ys, y.IsSettled) := by
  refine ⟨fun spec => ⟨fun h => ?_, ?_⟩, fun name xs hxs => ?_⟩
  · obtain ⟨name, xs, htokens, hvalue, hne, hrow, hspec⟩ :=
      (ofTokens_yields_row hstop hts).of_ok h
    exact ⟨name, xs, ⟨htokens, hvalue, hne, hrow.isField⟩, hrow.isSettled, hrow.distinct, hspec⟩
  · rintro ⟨name, xs, ⟨rfl, hvalue, hne, hfield⟩, hsettled, hdistinct, rfl⟩
    exact ofTokens_of_isRow hstop hvalue hne ⟨hfield, hsettled, hdistinct, by simp⟩
  · obtain ⟨ys, hys, htokens⟩ := exists_settled hxs.isField
    refine ⟨ys, ⟨⟨?_, hxs.isValue, hxs.name_ne, fun y hy => (hys y hy).1⟩,
      fun y hy => (hys y hy).2⟩, ?_⟩
    · rw [htokens]
      exact hxs.tokens
    · intro zs ⟨hzs, hsettled⟩
      have hsame : rowTokens zs = rowTokens ys := by
        rw [htokens]
        exact (List.cons.inj (hzs.tokens.symm.trans hxs.tokens)).2
      exact rowTokens_inj (fun z hz => ⟨hzs.isField z hz, hsettled z hz⟩) hys hsame

/-- The tokens of `mail SECRET sensitive = 'x'`, without the sentinel. -/
def markTokens : List Token :=
  [⟨.identifier, "mail", 0⟩, ⟨.identifier, "SECRET", 5⟩, ⟨.identifier, "sensitive", 12⟩,
    ⟨.punctuation, "=", 22⟩, ⟨.literal, "x", 24⟩]

/-- Of two marking words before the sign the second is the key, although the first might be, too. -/
theorem second_mark_is_key :
    let name : Token := ⟨.identifier, "mail", 0⟩
    let x : FieldTokens := ⟨none, ⟨.identifier, "SECRET", 5⟩, some ⟨.identifier, "sensitive", 12⟩,
      ⟨.punctuation, "=", 22⟩, ⟨.literal, "x", 24⟩⟩
    (Token.stop 27).isStop = true ∧ (∀ t ∈ markTokens, t.isStop = false) ∧
    IsDivision markTokens name [x] ∧
    ofTokens (markTokens ++ [Token.stop 27]) = .ok ⟨"mail", [⟨"sensitive", "x", true⟩]⟩ ∧
    ∃ y : FieldTokens, y.IsSettled ∧ y.field = ⟨"sensitive", "x", true⟩ ∧
      IsDivision markTokens name [y] ∧ y ≠ x := by
  intro name x
  have hts : ∀ t ∈ markTokens, t.isStop = false := by decide
  have hdivision : IsDivision markTokens name [x] := by
    refine ⟨rfl, rfl, by decide, fun z hz => ?_⟩
    obtain rfl := List.mem_singleton.mp hz
    refine ⟨nofun, rfl, by decide, ?_, rfl, rfl⟩
    rintro _ ⟨⟩
    decide
  have hread : ofTokens (markTokens ++ [Token.stop 27]) =
      .ok ⟨"mail", [⟨"sensitive", "x", true⟩]⟩ := by rfl
  obtain ⟨hiff, hunique⟩ := ofTokens_eq_ok_iff_settled markTokens (.stop 27) rfl hts
  obtain ⟨name', ys, hys, hsettled, -, hspec⟩ := (hiff _).mp hread
  obtain ⟨-, hfields⟩ := RecordSpec.mk.inj hspec
  have hlength : ys.length = 1 := by simpa using (congrArg List.length hfields).symm
  obtain ⟨y, rfl⟩ := List.length_eq_one_iff.mp hlength
  obtain ⟨hfield, -⟩ := List.cons.inj hfields
  obtain rfl : name' = name := (List.cons.inj hys.tokens).1.symm
  refine ⟨rfl, hts, hdivision, hread, y, hsettled y List.mem_cons_self, hfield.symm, hys, ?_⟩
  rintro rfl
  exact absurd (congrArg Field.key hfield) (by decide)

end Coffer.RecordSpec
