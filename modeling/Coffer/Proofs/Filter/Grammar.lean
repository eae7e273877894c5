import Coffer.Filter.Parser

/-!
The grammar of filters, and the trees that token sequences stand for.

`Derives` is the grammar: which sequences of tokens each of its symbols derives. `Spells` relates a
tree to the tokens that it is made of, read from left to right; without further demands a sequence
has several such trees. `Formula.WellGrouped` singles one out: no `or` stands below an `and` without
parentheses, and neither connective stands to its own right.

What is proved here: a sequence derives from the grammar exactly if it has a well-grouped tree
(`derives_iff_exists_tree`).
-/

namespace Coffer

namespace Formula

variable {α : Type}

def atoms : Formula α → List α
  | atom a => [a]
  | and l r | or l r => l.atoms ++ r.atoms
  | group e => e.atoms

def isAnd : Formula α → Bool
  | and .. => true
  | _ => false

def isOr : Formula α → Bool
  | or .. => true
  | _ => false

/-- `and` binds tighter than `or`, and both group to the left. -/
def WellGrouped : Formula α → Prop
  | atom _ => True
  | and l r => l.isOr = false ∧ r.isOr = false ∧ r.isAnd = false ∧ l.WellGrouped ∧ r.WellGrouped
  | or l r => r.isOr = false ∧ l.WellGrouped ∧ r.WellGrouped
  | group e => e.WellGrouped

end Formula

namespace Filter

/-! ### The grammar -/

inductive Symbol where
  | expr
  | orExpr
  | andExpr
  | primary
  | predicate
  | fieldRef
  | operator
  | value
deriving DecidableEq, Repr

/-- What each symbol derives. A value behind `matches` has to be a pattern. -/
inductive Derives : Symbol → List Token → Prop where
  | expr {ts : List Token} : Derives .orExpr ts → Derives .expr ts
  | or {ts : List Token} : Derives .andExpr ts → Derives .orExpr ts
  | orMore {ts us : List Token} {o : Token} : Derives .orExpr ts → o.isKeyword "or" = true →
      Derives .andExpr us → Derives .orExpr (ts ++ o :: us)
  | and {ts : List Token} : Derives .primary ts → Derives .andExpr ts
  | andMore {ts us : List Token} {o : Token} : Derives .andExpr ts → o.isKeyword "and" = true →
      Derives .primary us → Derives .andExpr (ts ++ o :: us)
  | parentheses {ts : List Token} {l r : Token} : l.isPunctuation "(" = true → Derives .expr ts →
      r.isPunctuation ")" = true → Derives .primary (l :: ts ++ [r])
  | plain {ts : List Token} : Derives .predicate ts → Derives .primary ts
  | predicate {ts : List Token} {o v : Token} : Derives .fieldRef ts → Derives .operator [o] →
      Derives .value [v] → (o.text = "matches" → ∃ p, Pattern.ofText v.text = .ok p) →
      Derives .predicate (ts ++ [o, v])
  | fieldName {t : Token} : t.isValue = true → Derives .fieldRef [t]
  | dollarName {d t : Token} : d.isPunctuation "$" = true → t.isWord "name" = true →
      Derives .fieldRef [d, t]
  | dot {t : Token} : t.isPunctuation "." = true → Derives .fieldRef [t]
  | operator {t : Token} : t.kind = .keyword → t.text ∈ comparisonWords → Derives .operator [t]
  | value {t : Token} : t.isValue = true → Derives .value [t]

/-! ### Trees -/

/-- The tokens of a subject: the record's name is a lone dot or `$name`. -/
inductive SpellsSubject : List Token → Subject → Prop where
  | field {t : Token} : t.isValue = true → SpellsSubject [t] (.field t.text)
  | dollarName {d t : Token} : d.isPunctuation "$" = true → t.isWord "name" = true →
      SpellsSubject [d, t] .name
  | dot {t : Token} : t.isPunctuation "." = true → SpellsSubject [t] .name

inductive SpellsComparison : Token → Token → Comparison → Prop where
  | is {o v : Token} : o.isKeyword "is" = true → v.isValue = true →
      SpellsComparison o v (.is v.text)
  | contains {o v : Token} : o.isKeyword "contains" = true → v.isValue = true →
      SpellsComparison o v (.contains v.text)
  | fits {o v : Token} {p : Pattern} : o.isKeyword "matches" = true → v.isValue = true →
      Pattern.ofText v.text = .ok p → SpellsComparison o v (.fits p)

/-- The tokens of a tree, from left to right, one pair of parentheses for each group. -/
inductive Spells : List Token → Filter → Prop where
  | atom {ts : List Token} {o v : Token} {s : Subject} {c : Comparison} : SpellsSubject ts s →
      SpellsComparison o v c → Spells (ts ++ [o, v]) (.atom ⟨s, c⟩)
  | and {ts us : List Token} {o : Token} {l r : Filter} : Spells ts l →
      o.isKeyword "and" = true → Spells us r → Spells (ts ++ o :: us) (.and l r)
  | or {ts us : List Token} {o : Token} {l r : Filter} : Spells ts l →
      o.isKeyword "or" = true → Spells us r → Spells (ts ++ o :: us) (.or l r)
  | group {ts : List Token} {l r : Token} {e : Filter} : l.isPunctuation "(" = true →
      Spells ts e → r.isPunctuation ")" = true → Spells (l :: ts ++ [r]) (.group e)

def IsTree (ts : List Token) (e : Filter) : Prop :=
  Spells ts e ∧ e.WellGrouped

/-! ### From trees to derivations -/

theorem SpellsSubject.derives {ts : List Token} {s : Subject} (h : SpellsSubject ts s) :
    Derives .fieldRef ts := by
  cases h with
  | field ht => exact .fieldName ht
  | dollarName hd ht => exact .dollarName hd ht
  | dot ht => exact .dot ht

theorem derives_operator {t : Token} {word : String} (h : t.isKeyword word = true)
    (hw : word ∈ comparisonWords) : t.text = word ∧ Derives .operator [t] := by
  obtain ⟨hk, ht⟩ : t.kind = .keyword ∧ t.text = word := by simpa [Token.isKeyword] using h
  exact ⟨ht, .operator hk (by rw [ht]; exact hw)⟩

theorem SpellsComparison.derives {ts : List Token} {o v : Token} {c : Comparison}
    (h : SpellsComparison o v c) (hts : Derives .fieldRef ts) :
    Derives .predicate (ts ++ [o, v]) := by
  cases h with
  | is ho hv =>
    obtain ⟨ht, hd⟩ := derives_operator ho (by decide)
    exact .predicate hts hd (.value hv) (fun h => by rw [ht] at h; exact absurd h (by decide))
  | contains ho hv =>
    obtain ⟨ht, hd⟩ := derives_operator ho (by decide)
    exact .predicate hts hd (.value hv) (fun h => by rw [ht] at h; exact absurd h (by decide))
  | fits ho hv hp =>
    obtain ⟨_, hd⟩ := derives_operator ho (by decide)
    exact .predicate hts hd (.value hv) (fun _ => ⟨_, hp⟩)

theorem Spells.derives {ts : List Token} {e : Filter} (h : Spells ts e) : e.WellGrouped →
    Derives .orExpr ts ∧ (e.isOr = false → Derives .andExpr ts) ∧
      (e.isOr = false → e.isAnd = false → Derives .primary ts) := by
  induction h with
  | atom hs hc =>
    intro _
    have hp : Derives .primary _ := .plain (hc.derives hs.derives)
    exact ⟨.or (.and hp), fun _ => .and hp, fun _ _ => hp⟩
  | and _ ho _ ihl ihr =>
    rintro ⟨hl, hr, hr', hwl, hwr⟩
    have ha : Derives .andExpr _ := .andMore ((ihl hwl).2.1 hl) ho ((ihr hwr).2.2 hr hr')
    exact ⟨.or ha, fun _ => ha, fun _ h => by simp [Formula.isAnd] at h⟩
  | or _ ho _ ihl ihr =>
    rintro ⟨hr, hwl, hwr⟩
    have hor : Derives .orExpr _ := .orMore (ihl hwl).1 ho ((ihr hwr).2.1 hr)
    exact ⟨hor, fun h => by simp [Formula.isOr] at h, fun h => by simp [Formula.isOr] at h⟩
  | group hl _ hr ih =>
    intro hw
    have hp : Derives .primary _ := .parentheses hl (.expr (ih hw).1) hr
    exact ⟨.or (.and hp), fun _ => .and hp, fun _ _ => hp⟩

/-! ### From derivations to trees -/

theorem exists_comparison {o v : Token} (ho : Derives .operator [o]) (hv : Derives .value [v])
    (hp : o.text = "matches" → ∃ p, Pattern.ofText v.text = .ok p) :
    ∃ c, SpellsComparison o v c := by
  cases ho with
  | operator hk ht =>
    cases hv with
    | value hv =>
      have hw : ∀ word, o.text = word → o.isKeyword word = true := by
        intro word h; simp [Token.isKeyword, hk, h]
      simp only [comparisonWords, List.mem_cons, List.not_mem_nil, or_false] at ht
      rcases ht with h | h | h
      · exact ⟨_, .is (hw _ h) hv⟩
      · exact ⟨_, .contains (hw _ h) hv⟩
      · obtain ⟨p, hp⟩ := hp h
        exact ⟨_, .fits (hw _ h) hv hp⟩

/-- What a derivation from a symbol gives: a subject, or a tree whose outermost connective is one
that the symbol allows. -/
def Yields : Symbol → List Token → Prop
  | .expr, ts | .orExpr, ts => ∃ e, IsTree ts e
  | .andExpr, ts => ∃ e, IsTree ts e ∧ e.isOr = false
  | .primary, ts | .predicate, ts => ∃ e, IsTree ts e ∧ e.isOr = false ∧ e.isAnd = false
  | .fieldRef, ts => ∃ s, SpellsSubject ts s
  | .operator, _ | .value, _ => True

theorem Derives.yields {s : Symbol} {ts : List Token} (h : Derives s ts) : Yields s ts := by
  induction h with
  | expr _ ih => exact ih
  | or _ ih => obtain ⟨e, he, _⟩ := ih; exact ⟨e, he⟩
  | orMore _ ho _ ihl ihr =>
    -- What is chained on is on the right and no chain itself, so the tree leans to the left.
    obtain ⟨l, hl⟩ := ihl
    obtain ⟨r, hr, hor⟩ := ihr
    exact ⟨.or l r, .or hl.1 ho hr.1, hor, hl.2, hr.2⟩
  | and _ ih => obtain ⟨e, he, hor, _⟩ := ih; exact ⟨e, he, hor⟩
  | andMore _ ho _ ihl ihr =>
    obtain ⟨l, hl, hlor⟩ := ihl
    obtain ⟨r, hr, hor, hand⟩ := ihr
    exact ⟨.and l r, ⟨.and hl.1 ho hr.1, hlor, hor, hand, hl.2, hr.2⟩, rfl⟩
  | parentheses hl _ hr ih =>
    obtain ⟨e, he⟩ := ih
    exact ⟨.group e, ⟨.group hl he.1 hr, he.2⟩, rfl, rfl⟩
  | plain _ ih => exact ih
  | predicate _ ho hv hp ih _ _ =>
    obtain ⟨s, hs⟩ := ih
    obtain ⟨c, hc⟩ := exists_comparison ho hv hp
    exact ⟨.atom ⟨s, c⟩, ⟨.atom hs hc, trivial⟩, rfl, rfl⟩
  | fieldName ht => exact ⟨_, .field ht⟩
  | dollarName hd ht => exact ⟨_, .dollarName hd ht⟩
  | dot ht => exact ⟨_, .dot ht⟩
  | operator _ _ => trivial
  | value _ => trivial

theorem derives_iff_exists_tree {ts : List Token} : Derives .expr ts ↔ ∃ e, IsTree ts e :=
  ⟨fun h => h.yields, fun ⟨_, hs, hw⟩ => .expr (hs.derives hw).1⟩

end Filter

end Coffer
