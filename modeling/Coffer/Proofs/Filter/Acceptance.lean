import Coffer.Proofs.Filter.Grammar
import Coffer.Proofs.Token.Scan
import Mathlib.Logic.ExistsUnique

/-!
Filters are read exactly as the grammar says.

The reader takes one token at a time and keeps a stack of open parentheses. Its states are given a
meaning by `State.Reads`: what has been read is a prefix that the state stands for. A step keeps
that meaning (`State.Reads.step`), so whatever is read at the end is a tree of the tokens; and a
tree's tokens lead from any state that waits for an operand to one that has read the tree
(`IsTree.steps`), so every tree is read.

Main statement: a filter is read from tokens exactly if they derive from the grammar, and it is
their only tree (`ofTokens_eq_ok_iff_derives`).
-/

namespace Coffer.Filter

/-! ### Runs without the sentinel -/

/-- Takes tokens none of which is the sentinel. -/
def State.steps (s : State) : List Token → Except ReadError State
  | [] => .ok s
  | t :: ts => (s.step t).bind (·.steps ts)

theorem State.steps_append (s : State) (ts us : List Token) :
    s.steps (ts ++ us) = (s.steps ts).bind (·.steps us) := by
  induction ts generalizing s with
  | nil => rfl
  | cons t ts ih =>
    simp only [List.cons_append, State.steps]
    cases s.step t with
    | error e => rfl
    | ok s' => exact ih s'

theorem State.steps_append_of_ok {s s' : State} {ts : List Token} (us : List Token)
    (h : s.steps ts = .ok s') : s.steps (ts ++ us) = s'.steps us := by
  rw [State.steps_append, h]; rfl

theorem State.run_append_stop {stop : Token} (hstop : stop.isStop = true) :
    ∀ (ts : List Token) (s : State), (∀ t ∈ ts, t.isStop = false) →
    s.run (ts ++ [stop]) = (s.steps ts).bind (·.finish stop)
  | [], s, _ => by simp [State.run, State.steps, hstop, Except.bind]
  | t :: ts, s, h => by
    have ht := h t List.mem_cons_self
    have ih := fun s' : State =>
      State.run_append_stop hstop ts s' (fun u hu => h u (List.mem_cons_of_mem t hu))
    simp only [List.cons_append, State.run, State.steps, ht, Bool.false_eq_true, if_false]
    cases s.step t with
    | error e => rfl
    | ok s' => exact ih s'

theorem ofTokens_append_stop {stop : Token} {ts : List Token} (hstop : stop.isStop = true)
    (hts : ∀ t ∈ ts, t.isStop = false) :
    ofTokens (ts ++ [stop]) = (State.start.steps ts).bind (·.finish stop) := by
  rw [ofTokens, Token.terminated_append_of_isStop hstop, State.run_append_stop hstop ts _ hts]

/-! ### Single tokens -/

theorem isPunctuation_iff {t : Token} {symbol : String} :
    t.isPunctuation symbol = true ↔ t.kind = .punctuation ∧ t.text = symbol := by
  simp [Token.isPunctuation]

theorem isKeyword_iff {t : Token} {word : String} :
    t.isKeyword word = true ↔ t.kind = .keyword ∧ t.text = word := by
  simp [Token.isKeyword]

theorem not_isPunctuation_of_isValue {t : Token} (h : t.isValue = true) (symbol : String) :
    t.isPunctuation symbol = false := by
  simp only [Token.isValue, Bool.or_eq_true, beq_iff_eq] at h
  rcases h with h | h <;> simp [Token.isPunctuation, h]

theorem not_isPunctuation_of_ne {t : Token} {a b : String} (h : t.isPunctuation a = true)
    (hab : a ≠ b) : t.isPunctuation b = false := by
  obtain ⟨_, ht⟩ := isPunctuation_iff.mp h
  simp [Token.isPunctuation, ht, hab]

theorem not_isKeyword_of_isPunctuation {t : Token} {a : String} (h : t.isPunctuation a = true)
    (word : String) : t.isKeyword word = false := by
  obtain ⟨hk, _⟩ := isPunctuation_iff.mp h
  simp [Token.isKeyword, hk]

/-! ### Every tree is read -/

theorem SpellsSubject.steps {ts : List Token} {s : Subject} (h : SpellsSubject ts s) (l : Level)
    (outer : List Level) :
    State.steps ⟨l, outer, .operand⟩ ts = .ok ⟨l, outer, .comparison s⟩ := by
  cases h with
  | field ht =>
    have hp := not_isPunctuation_of_isValue ht
    simp [State.steps, State.step, hp, ht, Except.bind]
  | dollarName hd ht =>
    have h1 := not_isPunctuation_of_ne hd (b := "(") (by decide)
    have h2 := not_isPunctuation_of_ne hd (b := ".") (by decide)
    simp [State.steps, State.step, h1, h2, hd, ht, Except.bind]
  | dot ht =>
    have h1 := not_isPunctuation_of_ne ht (b := "(") (by decide)
    simp [State.steps, State.step, h1, ht, Except.bind]

theorem SpellsComparison.steps {o v : Token} {c : Comparison} (h : SpellsComparison o v c)
    (l : Level) (outer : List Level) (s : Subject) :
    State.steps ⟨l, outer, .comparison s⟩ [o, v] = .ok ⟨l, outer, .after (.atom ⟨s, c⟩)⟩ := by
  cases h with
  | is ho hv =>
    obtain ⟨hk, ht⟩ := isKeyword_iff.mp ho
    simp [State.steps, State.step, hk, ht, hv, comparisonWords, Comparison.ofWord?, Except.bind]
  | contains ho hv =>
    obtain ⟨hk, ht⟩ := isKeyword_iff.mp ho
    simp [State.steps, State.step, hk, ht, hv, comparisonWords, Comparison.ofWord?, Except.bind]
  | fits ho hv hp =>
    obtain ⟨hk, ht⟩ := isKeyword_iff.mp ho
    simp [State.steps, State.step, hk, ht, hv, hp, comparisonWords, Comparison.ofWord?, Except.bind,
      Except.map]

/-- The state that has read `e` inside a level that was empty of `and`s. -/
def ReadsParts (alternatives : Option Filter) (outer : List Level) (ts : List Token)
    (e : Filter) : Prop :=
  ∃ parts last, State.steps ⟨⟨alternatives, none⟩, outer, .operand⟩ ts =
      .ok ⟨⟨alternatives, parts⟩, outer, .after last⟩ ∧
    (⟨alternatives, parts⟩ : Level).conjoin last = e

/-- The state that has read `e` inside an empty level. -/
def ReadsAll (outer : List Level) (ts : List Token) (e : Filter) : Prop :=
  ∃ l last, State.steps ⟨.empty, outer, .operand⟩ ts = .ok ⟨l, outer, .after last⟩ ∧
    l.close last = e

theorem readsParts_of_steps {alternatives : Option Filter} {outer : List Level} {ts : List Token}
    {e : Filter} (h : ∀ l, State.steps ⟨l, outer, .operand⟩ ts = .ok ⟨l, outer, .after e⟩) :
    ReadsParts alternatives outer ts e :=
  ⟨none, e, h _, rfl⟩

theorem ReadsParts.all {outer : List Level} {ts : List Token} {e : Filter}
    (h : ReadsParts none outer ts e) : ReadsAll outer ts e := by
  obtain ⟨parts, last, hs, he⟩ := h
  exact ⟨⟨none, parts⟩, last, hs, he⟩

/-- Behind the left side of an `and`, the level waits with that side conjoined. -/
theorem ReadsParts.step_and {alternatives : Option Filter} {outer : List Level} {ts : List Token}
    {e : Filter} {o : Token} (h : ReadsParts alternatives outer ts e)
    (ho : o.isKeyword "and" = true) : State.steps ⟨⟨alternatives, none⟩, outer, .operand⟩
      (ts ++ [o]) = .ok ⟨⟨alternatives, some e⟩, outer, .operand⟩ := by
  obtain ⟨parts, last, hs, rfl⟩ := h
  rw [State.steps_append_of_ok _ hs]
  simp [State.steps, State.step, ho, Level.afterAnd, Except.bind]

/-- Behind the left side of an `or`, the level waits with that side as its alternatives. -/
theorem ReadsAll.step_or {outer : List Level} {ts : List Token} {e : Filter} {o : Token}
    (h : ReadsAll outer ts e) (ho : o.isKeyword "or" = true) :
    State.steps ⟨.empty, outer, .operand⟩ (ts ++ [o]) = .ok ⟨⟨some e, none⟩, outer, .operand⟩ := by
  obtain ⟨l, last, hs, rfl⟩ := h
  have hand : o.isKeyword "and" = false := by
    obtain ⟨_, ht⟩ := isKeyword_iff.mp ho
    simp [Token.isKeyword, ht]
  rw [State.steps_append_of_ok _ hs]
  simp [State.steps, State.step, ho, hand, Level.afterOr, Except.bind]

theorem ReadsAll.step_close {l : Level} {outer : List Level} {ts : List Token} {e : Filter}
    {open_ close : Token} (hopen : open_.isPunctuation "(" = true)
    (h : ReadsAll (l :: outer) ts e) (hclose : close.isPunctuation ")" = true) :
    State.steps ⟨l, outer, .operand⟩ (open_ :: ts ++ [close]) =
      .ok ⟨l, outer, .after (.group e)⟩ := by
  obtain ⟨inner, last, hs, rfl⟩ := h
  have h1 := not_isKeyword_of_isPunctuation hclose "and"
  have h2 := not_isKeyword_of_isPunctuation hclose "or"
  have hfirst : State.step ⟨l, outer, .operand⟩ open_ = .ok ⟨.empty, l :: outer, .operand⟩ := by
    simp [State.step, hopen]
  rw [List.cons_append, State.steps, hfirst]
  show State.steps _ (ts ++ [close]) = _
  rw [State.steps_append_of_ok _ hs]
  simp [State.steps, State.step, h1, h2, hclose, Except.bind]

/-- The tokens of a well-grouped tree lead to a state that has read the tree: inside any level if
the tree has no open connective, inside one that waits behind an `or` if it has no open `or`, and
inside an empty one in any case. -/
theorem Spells.steps {ts : List Token} {e : Filter} (h : Spells ts e) : e.WellGrouped →
    (∀ outer, ReadsAll outer ts e) ∧
    (e.isOr = false → ∀ alternatives outer, ReadsParts alternatives outer ts e) ∧
    (e.isOr = false → e.isAnd = false → ∀ l outer,
      State.steps ⟨l, outer, .operand⟩ ts = .ok ⟨l, outer, .after e⟩) := by
  induction h with
  | @atom ts o v s c hs hc =>
    intro _
    have hp : ∀ l outer, State.steps ⟨l, outer, .operand⟩ (ts ++ [o, v]) =
        .ok ⟨l, outer, .after (.atom ⟨s, c⟩)⟩ := by
      intro l outer
      rw [State.steps_append_of_ok _ (hs.steps l outer), hc.steps]
    exact ⟨fun outer => (readsParts_of_steps (hp · outer)).all,
      fun _ _ outer => readsParts_of_steps (hp · outer), fun _ _ => hp⟩
  | @and ts us o l r _ ho _ ihl ihr =>
    rintro ⟨hl, hr, hr', hwl, hwr⟩
    have ha : ∀ alternatives outer, ReadsParts alternatives outer (ts ++ o :: us) (.and l r) := by
      intro alternatives outer
      -- The left side leaves its conjuncts open, and the right side is a single operand behind
      -- them.
      have hleft := ((ihl hwl).2.1 hl alternatives outer).step_and ho
      refine ⟨some l, r, ?_, rfl⟩
      rw [List.append_cons, State.steps_append_of_ok _ hleft, (ihr hwr).2.2 hr hr']
    exact ⟨fun outer => (ha none outer).all, fun _ => ha, fun _ h => by simp [Formula.isAnd] at h⟩
  | @or ts us o l r _ ho _ ihl ihr =>
    rintro ⟨hr, hwl, hwr⟩
    refine ⟨fun outer => ?_, fun h => by simp [Formula.isOr] at h,
      fun h => by simp [Formula.isOr] at h⟩
    -- The left side is closed by the word and kept; the right side is read with it set aside.
    have hleft := ((ihl hwl).1 outer).step_or ho
    obtain ⟨parts, last, hs, hlast⟩ := (ihr hwr).2.1 hr (some l) outer
    refine ⟨⟨some l, parts⟩, last, ?_, ?_⟩
    · rw [List.append_cons, State.steps_append_of_ok _ hleft, hs]
    · rw [Level.close, hlast]
  | @group ts l r e hl _ hr ih =>
    intro hw
    -- Inside the parentheses a level is begun that is empty, with this one behind it.
    have hp : ∀ level outer, State.steps ⟨level, outer, .operand⟩ (l :: ts ++ [r]) =
        .ok ⟨level, outer, .after (.group e)⟩ :=
      fun level outer => ((ih hw).1 (level :: outer)).step_close hl hr
    exact ⟨fun outer => (readsParts_of_steps (hp · outer)).all,
      fun _ _ outer => readsParts_of_steps (hp · outer), fun _ _ => hp⟩

theorem IsTree.ofTokens {ts : List Token} {e : Filter} {stop : Token} (h : IsTree ts e)
    (hstop : stop.isStop = true) (hts : ∀ t ∈ ts, t.isStop = false) :
    ofTokens (ts ++ [stop]) = .ok e := by
  obtain ⟨l, last, hs, rfl⟩ := (h.1.steps h.2).1 []
  rw [ofTokens_append_stop hstop hts, State.start, hs]
  simp [Except.bind, State.finish]

/-! ### Whatever is read is a tree -/

/-- Tokens that an `and` part was read from: a tree without an open `or`, and the `and` behind it. -/
def ReadsAnd (ts : List Token) (e : Filter) : Prop :=
  ∃ us o, ts = us ++ [o] ∧ o.isKeyword "and" = true ∧ IsTree us e ∧ e.isOr = false

/-- Tokens that alternatives were read from: a tree, and the `or` behind it. -/
def ReadsOr (ts : List Token) (e : Filter) : Prop :=
  ∃ us o, ts = us ++ [o] ∧ o.isKeyword "or" = true ∧ IsTree us e

/-- The tokens that a level stands for, up to the operand that it waits for. -/
def Level.Reads (l : Level) (ts : List Token) : Prop :=
  ∃ us vs, ts = us ++ vs ∧
    (match l.alternatives with
      | none => us = []
      | some a => ReadsOr us a) ∧
    (match l.parts with
      | none => vs = []
      | some p => ReadsAnd vs p)

theorem Level.reads_empty : Level.empty.Reads [] :=
  ⟨[], [], rfl, rfl, rfl⟩

/-- A tree without an open connective, joined to the parts before it. -/
theorem conjoin_isTree {l : Level} {vs us : List Token} {e : Filter}
    (hparts : match l.parts with
      | none => vs = []
      | some p => ReadsAnd vs p)
    (he : IsTree us e) (hor : e.isOr = false) (hand : e.isAnd = false) :
    IsTree (vs ++ us) (l.conjoin e) ∧ (l.conjoin e).isOr = false := by
  cases hp : l.parts with
  | none =>
    rw [hp] at hparts
    subst hparts
    simpa [Level.conjoin, hp] using ⟨he, hor⟩
  | some p =>
    rw [hp] at hparts
    obtain ⟨ws, o, rfl, ho, hw, hpor⟩ := hparts
    simp only [Level.conjoin, hp, Formula.isOr, and_true]
    rw [List.append_assoc, List.singleton_append]
    exact ⟨.and hw.1 ho he.1, hpor, hor, hand, hw.2, he.2⟩

theorem Level.Reads.close {l : Level} {ts us : List Token} {e : Filter} (h : l.Reads ts)
    (he : IsTree us e) (hor : e.isOr = false) (hand : e.isAnd = false) :
    IsTree (ts ++ us) (l.close e) := by
  obtain ⟨as, vs, rfl, halts, hparts⟩ := h
  obtain ⟨hc, hcor⟩ := conjoin_isTree hparts he hor hand
  rw [List.append_assoc]
  cases ha : l.alternatives with
  | none =>
    rw [ha] at halts
    subst halts
    simpa [Level.close, ha] using hc
  | some a =>
    rw [ha] at halts
    obtain ⟨ws, o, rfl, ho, hw⟩ := halts
    simp only [Level.close, ha]
    rw [List.append_assoc, List.singleton_append]
    exact ⟨.or hw.1 ho hc.1, hcor, hw.2, hc.2⟩

theorem Level.Reads.afterAnd {l : Level} {ts us : List Token} {e : Filter} {o : Token}
    (h : l.Reads ts) (he : IsTree us e) (hor : e.isOr = false) (hand : e.isAnd = false)
    (ho : o.isKeyword "and" = true) : (l.afterAnd e).Reads (ts ++ us ++ [o]) := by
  obtain ⟨as, vs, rfl, halts, hparts⟩ := h
  obtain ⟨hc, hcor⟩ := conjoin_isTree hparts he hor hand
  exact ⟨as, vs ++ us ++ [o], by simp, halts, vs ++ us, o, rfl, ho, hc, hcor⟩

theorem Level.Reads.afterOr {l : Level} {ts us : List Token} {e : Filter} {o : Token}
    (h : l.Reads ts) (he : IsTree us e) (hor : e.isOr = false) (hand : e.isAnd = false)
    (ho : o.isKeyword "or" = true) : (l.afterOr e).Reads (ts ++ us ++ [o]) :=
  ⟨ts ++ us ++ [o], [], by simp, ⟨ts ++ us, o, rfl, ho, h.close he hor hand⟩, rfl⟩

/-- The tokens that open parentheses stand for, the innermost pair first. -/
inductive ReadsOuter : List Level → List Token → Prop where
  | nil : ReadsOuter [] []
  | cons {l : Level} {outer : List Level} {ts us : List Token} {t : Token} : ReadsOuter outer ts →
      l.Reads us → t.isPunctuation "(" = true → ReadsOuter (l :: outer) (ts ++ us ++ [t])

/-- The tokens of the operand that has been begun. -/
def Expect.Reads : Expect → List Token → Prop
  | .operand, ts => ts = []
  | .reference, ts => ∃ t, ts = [t] ∧ t.isPunctuation "$" = true
  | .comparison s, ts => SpellsSubject ts s
  | .value s word, ts => ∃ us o, ts = us ++ [o] ∧ SpellsSubject us s ∧
      o.isKeyword word = true ∧ word ∈ comparisonWords
  | .after e, ts => IsTree ts e ∧ e.isOr = false ∧ e.isAnd = false

/-- What has been read, in a state. -/
def State.Reads (s : State) (ts : List Token) : Prop :=
  ∃ outer level operand, ts = outer ++ level ++ operand ∧ ReadsOuter s.outer outer ∧
    s.level.Reads level ∧ s.expect.Reads operand

theorem State.reads_start : State.start.Reads [] :=
  ⟨[], [], [], rfl, .nil, Level.reads_empty, rfl⟩

theorem spellsComparison_of_ofWord {o v : Token} {word : String} {c : Comparison}
    (ho : o.isKeyword word = true) (hv : v.isValue = true) (hw : word ∈ comparisonWords)
    (hc : Comparison.ofWord? word v.text = some (.ok c)) : SpellsComparison o v c := by
  simp only [comparisonWords, List.mem_cons, List.not_mem_nil, or_false] at hw
  rcases hw with rfl | rfl | rfl
  · simp only [Comparison.ofWord?, Option.some.injEq, Except.ok.injEq] at hc
    subst hc
    exact .is ho hv
  · simp only [Comparison.ofWord?, Option.some.injEq, Except.ok.injEq] at hc
    subst hc
    exact .contains ho hv
  · simp only [Comparison.ofWord?, Option.some.injEq] at hc
    cases hp : Pattern.ofText v.text with
    | error e => rw [hp] at hc; simp [Except.map] at hc
    | ok p =>
      rw [hp] at hc
      simp only [Except.map, Except.ok.injEq] at hc
      subst hc
      exact .fits ho hv hp

/-- A step keeps the meaning of the state: it has read one token more. -/
theorem State.Reads.step {s s' : State} {ts : List Token} {t : Token} (h : s.Reads ts)
    (hs : s.step t = .ok s') : s'.Reads (ts ++ [t]) := by
  obtain ⟨level, outer, expect⟩ := s
  obtain ⟨os, ls, ps, rfl, hos, hls, hps⟩ := h
  cases expect with
  | operand =>
    simp only [Expect.Reads] at hps
    subst hps
    simp only [State.step] at hs
    split at hs
    · next ht =>
      cases hs
      exact ⟨os ++ ls ++ [t], [], [], by simp, .cons hos hls ht, Level.reads_empty, rfl⟩
    split at hs
    · next ht => cases hs; exact ⟨os, ls, [t], by simp, hos, hls, .dot ht⟩
    split at hs
    · next ht => cases hs; exact ⟨os, ls, [t], by simp, hos, hls, t, rfl, ht⟩
    split at hs
    · next ht => cases hs; exact ⟨os, ls, [t], by simp, hos, hls, .field ht⟩
    · cases hs
  | reference =>
    obtain ⟨d, rfl, hd⟩ := hps
    simp only [State.step] at hs
    split at hs
    · next ht => cases hs; exact ⟨os, ls, [d, t], by simp, hos, hls, .dollarName hd ht⟩
    · cases hs
  | comparison subject =>
    simp only [State.step] at hs
    split at hs
    · next ht =>
      cases hs
      exact ⟨os, ls, ps ++ [t], by simp, hos, hls, ps, t, rfl, hps, isKeyword_iff.mpr ⟨ht.1, rfl⟩,
        ht.2⟩
    · cases hs
  | value subject word =>
    obtain ⟨us, o, rfl, hsub, ho, hw⟩ := hps
    simp only [State.step] at hs
    split at hs
    · next hv =>
      split at hs
      · next c hc =>
        cases hs
        have hcmp := spellsComparison_of_ofWord ho hv hw hc
        refine ⟨os, ls, us ++ [o, t], by simp, hos, hls, ?_, rfl, rfl⟩
        exact ⟨.atom hsub hcmp, trivial⟩
      · cases hs
      · cases hs
    · cases hs
  | after e =>
    obtain ⟨he, hor, hand⟩ := hps
    simp only [State.step] at hs
    split at hs
    · next ht =>
      cases hs
      exact ⟨os, ls ++ ps ++ [t], [], by simp, hos, hls.afterAnd he hor hand ht, rfl⟩
    split at hs
    · next ht =>
      cases hs
      exact ⟨os, ls ++ ps ++ [t], [], by simp, hos, hls.afterOr he hor hand ht, rfl⟩
    split at hs
    · next l outer =>
      split at hs
      · next ht =>
        cases hs
        -- the level inside the parentheses becomes an operand of the level around them
        cases hos with
        | @cons _ _ ts us open_ houter hl hopen =>
          refine ⟨ts, us, open_ :: (ls ++ ps) ++ [t], by simp, houter, hl, ?_, rfl, rfl⟩
          have htree := hls.close he hor hand
          exact ⟨.group hopen htree.1 ht, htree.2⟩
      · cases hs
    · split at hs <;> cases hs

theorem State.Reads.steps {s' : State} : ∀ (us : List Token) {s : State}
    {ts : List Token}, s.Reads ts → s.steps us = .ok s' → s'.Reads (ts ++ us)
  | [], s, ts, h, hs => by
    cases hs
    simpa using h
  | t :: us, s, ts, h, hs => by
    simp only [State.steps] at hs
    cases hstep : s.step t with
    | error e => rw [hstep] at hs; cases hs
    | ok s₁ =>
      rw [hstep] at hs
      have ih := State.Reads.steps us (h.step hstep) hs
      rwa [List.append_assoc] at ih

theorem State.Reads.finish {s : State} {ts : List Token} {stop : Token} {e : Filter}
    (h : s.Reads ts) (hs : s.finish stop = .ok e) : IsTree ts e := by
  obtain ⟨level, outer, expect⟩ := s
  obtain ⟨os, ls, ps, rfl, hos, hls, hps⟩ := h
  cases expect with
  | operand => cases hs
  | reference => cases hs
  | comparison subject => cases hs
  | value subject word => cases hs
  | after last =>
    obtain ⟨he, hor, hand⟩ := hps
    simp only [State.finish] at hs
    split at hs
    · next hempty =>
      cases hs
      cases hos with
      | nil => simpa using hls.close he hor hand
      | cons => simp at hempty
    · cases hs

theorem isTree_of_ofTokens {ts : List Token} {e : Filter} {stop : Token}
    (hstop : stop.isStop = true) (hts : ∀ t ∈ ts, t.isStop = false)
    (h : ofTokens (ts ++ [stop]) = .ok e) : IsTree ts e := by
  rw [ofTokens_append_stop hstop hts] at h
  cases hs : State.start.steps ts with
  | error f => rw [hs] at h; cases h
  | ok s =>
    rw [hs] at h
    have hreads := State.Reads.steps ts State.reads_start hs
    exact hreads.finish h

theorem exists_tree_of_parse {text : String} {e : Filter} (h : parse text = .ok e) :
    ∃ ts last, Token.tokenize text = .ok (ts ++ [.stop last]) ∧ (∀ t ∈ ts, t.isStop = false) ∧
      IsTree ts e := by
  rw [parse] at h
  split at h
  case h_2 => cases h
  next us hus =>
  obtain ⟨ts, last, rfl, hts⟩ := Token.exists_stop_of_scan (Token.scan_of_tokenize hus)
  exact ⟨ts, last, hus, hts, isTree_of_ofTokens rfl hts h⟩

theorem ofTokens_eq_ok_iff {ts : List Token} {e : Filter} {stop : Token}
    (hstop : stop.isStop = true) (hts : ∀ t ∈ ts, t.isStop = false) :
    ofTokens (ts ++ [stop]) = .ok e ↔ IsTree ts e :=
  ⟨isTree_of_ofTokens hstop hts, fun h => h.ofTokens hstop hts⟩

/-- **Filters are read exactly as the grammar says.** From tokens with the sentinel behind them a
filter is read exactly if they derive from `expr` and it is a well-grouped tree of them; and tokens
that derive from `expr` have exactly one such tree. -/
theorem ofTokens_eq_ok_iff_derives (ts : List Token) (stop : Token) (hstop : stop.isStop = true)
    (hts : ∀ t ∈ ts, t.isStop = false) :
    (∀ e, ofTokens (ts ++ [stop]) = .ok e ↔ Derives .expr ts ∧ Spells ts e ∧ e.WellGrouped) ∧
    (Derives .expr ts → ∃! e, Spells ts e ∧ e.WellGrouped) := by
  refine ⟨fun e => ?_, fun h => ?_⟩
  · rw [ofTokens_eq_ok_iff hstop hts]
    exact ⟨fun h => ⟨derives_iff_exists_tree.mpr ⟨e, h⟩, h⟩, fun h => h.2⟩
  · obtain ⟨e, he⟩ := derives_iff_exists_tree.mp h
    refine ⟨e, he, fun e' he' => ?_⟩
    have h₁ := IsTree.ofTokens he hstop hts
    have h₂ := IsTree.ofTokens he' hstop hts
    rw [h₁] at h₂
    exact (Except.ok.inj h₂).symm

/-- The tokens of `a is 1 or b is 2 and . contains 3`, without the sentinel. -/
def chainTokens : List Token :=
  [⟨.identifier, "a", 0⟩, ⟨.keyword, "is", 2⟩, ⟨.identifier, "1", 5⟩, ⟨.keyword, "or", 7⟩,
    ⟨.identifier, "b", 10⟩, ⟨.keyword, "is", 12⟩, ⟨.identifier, "2", 15⟩, ⟨.keyword, "and", 17⟩,
    ⟨.punctuation, ".", 21⟩, ⟨.keyword, "contains", 23⟩, ⟨.literal, "3", 32⟩]

def chainTree : Filter :=
  .or (.atom ⟨.field "a", .is "1"⟩)
    (.and (.atom ⟨.field "b", .is "2"⟩) (.atom ⟨.name, .contains "3"⟩))

theorem chainTokens_derive_chainTree : (Token.stop 35).isStop = true ∧
    (∀ t ∈ chainTokens, t.isStop = false) ∧
    ofTokens (chainTokens ++ [Token.stop 35]) = .ok chainTree ∧
    Derives .expr chainTokens ∧ Spells chainTokens chainTree ∧
    ∃! e, Spells chainTokens e ∧ e.WellGrouped := by
  have hts : ∀ t ∈ chainTokens, t.isStop = false := by decide
  have hread : ofTokens (chainTokens ++ [Token.stop 35]) = .ok chainTree := by rfl
  obtain ⟨hiff, hunique⟩ := ofTokens_eq_ok_iff_derives chainTokens (.stop 35) rfl hts
  obtain ⟨hd, hs, _⟩ := (hiff chainTree).mp hread
  exact ⟨rfl, hts, hread, hd, hs, hunique hd⟩

end Coffer.Filter
