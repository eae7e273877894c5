import Coffer.Proofs.Filter.Acceptance

/-!
What a filter means to whoever writes it. On the page a filter is a chain: predicates and filters in
parentheses, one after the other, with `and` or `or` between them. A record satisfies it exactly if
it satisfies all members of some run that is joined by `and` and goes as far as it can in both
directions (`Chain.IsTrue`), and what stands in parentheses is judged in the same way.

None of this mentions the tree that a filter is read as, which leans to the left and has its
connectives where the precedence puts them. A chain is read as the tree in which a member behind an
`and` goes into the last alternative, and one behind an `or` becomes the last alternative
(`Chain.tree`). So the truth of a tree splits into that of its last alternative and that of all
before it, just as the runs of a chain split into its last one and all before it; a member more
changes both in the same way (`Chain.holds_tree`).

Main statement: whatever is read as a filter is a chain, and the filter holds of a record exactly if
the chain is true of it (`holds_iff_some_run_isTrue`).
-/

namespace Coffer

namespace Filter

/-! ### Chains -/

inductive Connective where
  | and
  | or
deriving DecidableEq, Repr

def Connective.word : Connective → String
  | and => "and"
  | or => "or"

mutual

/-- A member of a chain: a predicate, or a chain in parentheses. -/
inductive Primary where
  | predicate (p : Predicate)
  | parentheses (c : Chain)

/-- Primaries with a connective between each two of them, as they follow each other. -/
inductive Chain where
  | single (p : Primary)
  | join (c : Chain) (o : Connective) (p : Primary)

end

mutual

inductive Primary.Spells : List Token → Primary → Prop where
  | predicate {ts : List Token} {o v : Token} {s : Subject} {c : Comparison} :
      SpellsSubject ts s → SpellsComparison o v c →
      Primary.Spells (ts ++ [o, v]) (.predicate ⟨s, c⟩)
  | parentheses {ts : List Token} {l r : Token} {c : Chain} : l.isPunctuation "(" = true →
      Chain.Spells ts c → r.isPunctuation ")" = true →
      Primary.Spells (l :: ts ++ [r]) (.parentheses c)

inductive Chain.Spells : List Token → Chain → Prop where
  | single {ts : List Token} {p : Primary} : Primary.Spells ts p → Chain.Spells ts (.single p)
  | join {ts us : List Token} {t : Token} {c : Chain} {o : Connective} {p : Primary} :
      Chain.Spells ts c → t.isKeyword o.word = true → Primary.Spells us p →
      Chain.Spells (ts ++ t :: us) (.join c o p)

end

namespace Chain

def primaries : Chain → List Primary
  | single p => [p]
  | join c _ p => c.primaries ++ [p]

/-- The connectives of a chain: the one with number `k` stands between the primaries with the
numbers `k` and `k + 1`. -/
def connectives : Chain → List Connective
  | single _ => []
  | join c o _ => c.connectives ++ [o]

/-- The primaries with the numbers from `i` to `j` are joined by `and`, and no `and` joins them to
another one. -/
structure IsRun (c : Chain) (i j : Nat) : Prop where
  ordered : i ≤ j
  inside : j < c.primaries.length
  joined : ∀ k, i ≤ k → k < j → c.connectives[k]? = some .and
  before : ∀ k, k + 1 = i → c.connectives[k]? = some .or
  behind : c.connectives[j]? ≠ some .and

end Chain

/-- Whether a primary is true of a record. A predicate is if the record has what it looks at and
that passes, a chain in parentheses if some run of it is true throughout. -/
inductive Primary.IsTrue (r : Record) : Primary → Prop where
  | predicate {p : Predicate} {text : String} : p.subject.of r = some text →
      p.comparison.accepts text = true → IsTrue r (.predicate p)
  | parentheses {c : Chain} {i j : Nat} : c.IsRun i j →
      (∀ k p, i ≤ k → k ≤ j → c.primaries[k]? = some p → IsTrue r p) → IsTrue r (.parentheses c)

namespace Chain

variable {c : Chain} {o : Connective} {p : Primary} {r : Record} {i j : Nat}

/-- The primaries with the numbers from `i` to `j` are true of a record. -/
def AllTrue (r : Record) (c : Chain) (i j : Nat) : Prop :=
  ∀ k p, i ≤ k → k ≤ j → c.primaries[k]? = some p → p.IsTrue r

/-- Whether a chain is true of a record: some run of it is true throughout. -/
def IsTrue (r : Record) (c : Chain) : Prop :=
  ∃ i j, c.IsRun i j ∧ c.AllTrue r i j

/-! ### Runs -/

theorem length_connectives : ∀ c : Chain, c.connectives.length + 1 = c.primaries.length
  | single _ => rfl
  | join c _ _ => by
    rw [connectives, primaries, List.length_append, List.length_append, List.length_singleton,
      List.length_singleton, length_connectives c]

/-- With one more primary, a chain has one connective more, between that primary and the one that
was the last. -/
theorem connectives_join (c : Chain) (o : Connective) (p : Primary) (k : Nat) :
    (join c o p).connectives[k]? =
      if k + 1 = c.primaries.length then some o else c.connectives[k]? := by
  have hlength := c.length_connectives
  rw [connectives]
  split
  · next hk =>
    obtain rfl : k = c.connectives.length := by omega
    rw [List.getElem?_concat_length]
  · next hk =>
    by_cases hlt : k < c.connectives.length
    · rw [List.getElem?_append_left hlt]
    · rw [List.getElem?_eq_none (by simp; omega), List.getElem?_eq_none (by omega)]

theorem length_primaries_join (c : Chain) (o : Connective) (p : Primary) :
    (join c o p).primaries.length = c.primaries.length + 1 := by
  rw [primaries, List.length_append, List.length_singleton]

theorem connectives_last (c : Chain) {k : Nat} (hk : k + 1 = c.primaries.length) :
    c.connectives[k]? = none := by
  have hlength := c.length_connectives
  exact List.getElem?_eq_none (by omega)

/-- A run that ends before the last primary, or that an `or` keeps from going on, stays the same
when a primary is added. -/
theorem isRun_join_old (hj : j < c.primaries.length)
    (ho : j + 1 = c.primaries.length → o = .or) : (join c o p).IsRun i j ↔ c.IsRun i j := by
  have hsame : ∀ k, k < j → (join c o p).connectives[k]? = c.connectives[k]? := by
    intro k hk
    rw [connectives_join, if_neg (by omega)]
  have hend : (join c o p).connectives[j]? ≠ some .and ↔ c.connectives[j]? ≠ some .and := by
    rw [connectives_join]
    split
    · next hlast => simp [ho hlast, connectives_last c hlast]
    · rfl
  have hlength := length_primaries_join c o p
  constructor
  · intro ⟨hordered, _, hjoined, hbefore, hbehind⟩
    refine ⟨hordered, hj, fun k hi hk => hsame k hk ▸ hjoined k hi hk, fun k hk => ?_,
      hend.mp hbehind⟩
    exact hsame k (by omega) ▸ hbefore k hk
  · intro ⟨hordered, _, hjoined, hbefore, hbehind⟩
    refine ⟨hordered, by omega, fun k hi hk => (hsame k hk).trans (hjoined k hi hk), fun k hk => ?_,
      hend.mpr hbehind⟩
    exact (hsame k (by omega)).trans (hbefore k hk)

theorem not_isRun_join_and (hj : j + 1 = c.primaries.length) : ¬ (join c .and p).IsRun i j := by
  intro h
  have hbehind := h.behind
  rw [connectives_join, if_pos hj] at hbehind
  exact hbehind rfl

theorem isRun_join_or_last :
    (join c .or p).IsRun i c.primaries.length ↔ i = c.primaries.length := by
  have hlength := c.length_connectives
  constructor
  · intro h
    have hordered := h.ordered
    by_contra hne
    have hjoined := h.joined c.connectives.length (by omega) (by omega)
    rw [connectives_join, if_pos hlength] at hjoined
    cases hjoined
  · rintro rfl
    refine ⟨Nat.le_refl _, by simp [primaries], fun k hi hk => by omega, fun k hk => ?_, ?_⟩
    · rw [connectives_join, if_pos hk]
    · rw [connectives_join, if_neg (by omega), List.getElem?_eq_none (by omega)]
      exact nofun

theorem isRun_join_and_last (hj : j + 1 = c.primaries.length) :
    (join c .and p).IsRun i (j + 1) ↔ c.IsRun i j := by
  have hlength := c.length_connectives
  have hsame : ∀ k, k < j → (join c .and p).connectives[k]? = c.connectives[k]? := by
    intro k hk
    rw [connectives_join, if_neg (by omega)]
  constructor
  · intro ⟨hordered, _, hjoined, hbefore, _⟩
    -- The new primary is not a run of its own: it would need an `or` before it.
    have hi : i ≤ j := by
      by_contra hi
      have hor := hbefore j (by omega)
      rw [connectives_join, if_pos hj] at hor
      cases hor
    refine ⟨hi, by omega, fun k hi hk => hsame k hk ▸ hjoined k hi (by omega), fun k hk => ?_, ?_⟩
    · exact hsame k (by omega) ▸ hbefore k hk
    · rw [connectives_last c hj]
      exact nofun
  · intro ⟨hordered, _, hjoined, hbefore, _⟩
    refine ⟨by omega, by simp [primaries]; omega, fun k hi hk => ?_, fun k hk => ?_, ?_⟩
    · by_cases hlast : k = j
      · rw [connectives_join, if_pos (by omega)]
      · exact (hsame k (by omega)).trans (hjoined k hi (by omega))
    · exact (hsame k (by omega)).trans (hbefore k hk)
    · rw [connectives_join, if_neg (by omega), List.getElem?_eq_none (by omega)]
      exact nofun

/-! ### Truth along a chain -/

/-- Some run but the last is true throughout. -/
def IsTrueEarlier (r : Record) (c : Chain) : Prop :=
  ∃ i j, j + 1 < c.primaries.length ∧ c.IsRun i j ∧ c.AllTrue r i j

def IsTrueLast (r : Record) (c : Chain) : Prop :=
  ∃ i j, j + 1 = c.primaries.length ∧ c.IsRun i j ∧ c.AllTrue r i j

theorem isTrue_iff : c.IsTrue r ↔ c.IsTrueEarlier r ∨ c.IsTrueLast r := by
  constructor
  · intro ⟨i, j, hrun, hall⟩
    have hinside := hrun.inside
    by_cases hlast : j + 1 = c.primaries.length
    · exact .inr ⟨i, j, hlast, hrun, hall⟩
    · exact .inl ⟨i, j, by omega, hrun, hall⟩
  · rintro (⟨i, j, -, hrun, hall⟩ | ⟨i, j, -, hrun, hall⟩)
    · exact ⟨i, j, hrun, hall⟩
    · exact ⟨i, j, hrun, hall⟩

theorem allTrue_join_old (hj : j < c.primaries.length) :
    (join c o p).AllTrue r i j ↔ c.AllTrue r i j := by
  have hsame : ∀ k, k ≤ j → (join c o p).primaries[k]? = c.primaries[k]? := by
    intro k hk
    rw [primaries, List.getElem?_append_left (by omega)]
  constructor
  · intro h k q hi hk hq
    exact h k q hi hk ((hsame k hk).trans hq)
  · intro h k q hi hk hq
    exact h k q hi hk ((hsame k hk).symm.trans hq)

theorem allTrue_join_last (hi : i ≤ c.primaries.length) :
    (join c o p).AllTrue r i c.primaries.length ↔
      (∀ j, j + 1 = c.primaries.length → c.AllTrue r i j) ∧ p.IsTrue r := by
  have hlast : (join c o p).primaries[c.primaries.length]? = some p := by
    rw [primaries, List.getElem?_concat_length]
  constructor
  · intro h
    refine ⟨fun j hj => ?_, h _ p hi (Nat.le_refl _) hlast⟩
    rw [← allTrue_join_old (o := o) (p := p) (by omega)]
    intro k q hik hk hq
    exact h k q hik (by omega) hq
  · intro ⟨h, hp⟩ k q hik hk hq
    -- Either `q` is the new primary, or it stands in the run that ended the shorter chain.
    by_cases heq : k = c.primaries.length
    · rw [heq, hlast] at hq
      exact Option.some.inj hq ▸ hp
    · have hall := h (c.primaries.length - 1) (by omega)
      rw [← allTrue_join_old (o := o) (p := p) (by omega)] at hall
      exact hall k q hik (by omega) hq

theorem isTrueEarlier_single : ¬ (single p).IsTrueEarlier r := by
  intro ⟨i, j, hj, _⟩
  simp [primaries] at hj

theorem isTrueLast_single : (single p).IsTrueLast r ↔ p.IsTrue r := by
  constructor
  · intro ⟨i, j, hj, hrun, hall⟩
    have hordered := hrun.ordered
    simp only [primaries, List.length_singleton] at hj
    exact hall 0 p (by omega) (by omega) rfl
  · intro h
    refine ⟨0, 0, rfl, ⟨Nat.le_refl 0, Nat.one_pos, fun k _ hk => by omega, fun k hk => by omega,
      nofun⟩, fun k q _ hk hq => ?_⟩
    obtain rfl : k = 0 := by omega
    cases hq
    exact h

theorem isTrueEarlier_join_or : (join c .or p).IsTrueEarlier r ↔ c.IsTrue r := by
  have hlength := length_primaries_join c .or p
  constructor
  · intro ⟨i, j, hj, hrun, hall⟩
    have hj : j < c.primaries.length := by omega
    exact ⟨i, j, (isRun_join_old hj fun _ => rfl).mp hrun, (allTrue_join_old hj).mp hall⟩
  · intro ⟨i, j, hrun, hall⟩
    have hj := hrun.inside
    exact ⟨i, j, by omega, (isRun_join_old hj fun _ => rfl).mpr hrun,
      (allTrue_join_old hj).mpr hall⟩

theorem isTrueLast_join_or : (join c .or p).IsTrueLast r ↔ p.IsTrue r := by
  have hlength := length_primaries_join c .or p
  constructor
  · intro ⟨i, j, hj, hrun, hall⟩
    obtain rfl : j = c.primaries.length := by omega
    exact ((allTrue_join_last hrun.ordered).mp hall).2
  · intro h
    refine ⟨_, _, hlength.symm, isRun_join_or_last.mpr rfl, (allTrue_join_last (Nat.le_refl _)).mpr
      ⟨fun j hj k q hi hk => by omega, h⟩⟩

theorem isTrueEarlier_join_and : (join c .and p).IsTrueEarlier r ↔ c.IsTrueEarlier r := by
  have hlength := length_primaries_join c .and p
  constructor
  · intro ⟨i, j, hj, hrun, hall⟩
    have hne : j + 1 ≠ c.primaries.length := fun heq => not_isRun_join_and heq hrun
    have hj : j < c.primaries.length := by omega
    exact ⟨i, j, by omega, (isRun_join_old hj fun heq => absurd heq hne).mp hrun,
      (allTrue_join_old hj).mp hall⟩
  · intro ⟨i, j, hj, hrun, hall⟩
    exact ⟨i, j, by omega, (isRun_join_old (by omega) fun heq => by omega).mpr hrun,
      (allTrue_join_old (by omega)).mpr hall⟩

theorem isTrueLast_join_and :
    (join c .and p).IsTrueLast r ↔ c.IsTrueLast r ∧ p.IsTrue r := by
  have hlength := length_primaries_join c .and p
  constructor
  · intro ⟨i, j, hj, hrun, hall⟩
    obtain rfl : j = c.primaries.length := by omega
    obtain ⟨hold, hp⟩ := (allTrue_join_last hrun.ordered).mp hall
    have hpos := c.length_connectives
    have hend : c.primaries.length - 1 + 1 = c.primaries.length := by omega
    rw [← hend] at hrun
    exact ⟨⟨i, _, hend, (isRun_join_and_last hend).mp hrun, hold _ hend⟩, hp⟩
  · intro ⟨⟨i, j, hj, hrun, hall⟩, hp⟩
    have hordered := hrun.ordered
    refine ⟨i, j + 1, by omega, (isRun_join_and_last hj).mpr hrun, ?_⟩
    rw [hj, allTrue_join_last (by omega)]
    refine ⟨fun k hk => ?_, hp⟩
    obtain rfl : k = j := by omega
    exact hall

end Chain

end Filter

/-! ### The last alternative of a formula -/

namespace Formula

variable {α : Type} {f e : Formula α} {test : α → Bool}

/-- Puts a formula behind an `and` at the end of another one: into its last alternative. -/
def andLast : Formula α → Formula α → Formula α
  | or l r, e => or l (and r e)
  | f, e => and f e

/-- The truth of all alternatives but the last. -/
def holdsEarlier (test : α → Bool) : Formula α → Bool
  | or l _ => l.holds test
  | _ => false

def holdsLast (test : α → Bool) : Formula α → Bool
  | or _ r => r.holds test
  | f => f.holds test

theorem holds_eq (f : Formula α) : f.holds test = (f.holdsEarlier test || f.holdsLast test) := by
  cases f <;> rfl

theorem holdsEarlier_of_isOr (h : f.isOr = false) : f.holdsEarlier test = false := by
  cases f with
  | or => cases h
  | _ => rfl

theorem holdsLast_of_isOr (h : f.isOr = false) : f.holdsLast test = f.holds test := by
  cases f with
  | or => cases h
  | _ => rfl

theorem holdsEarlier_andLast (f e : Formula α) :
    (f.andLast e).holdsEarlier test = f.holdsEarlier test := by
  cases f <;> rfl

theorem holdsLast_andLast (f e : Formula α) :
    (f.andLast e).holdsLast test = (f.holdsLast test && e.holds test) := by
  cases f <;> rfl

end Formula

namespace Filter

/-! ### The tree of a chain -/

mutual

/-- The tree of a primary. -/
def Primary.tree : Primary → Filter
  | .predicate p => .atom p
  | .parentheses c => .group c.tree

/-- The tree of a chain. -/
def Chain.tree : Chain → Filter
  | .single p => p.tree
  | .join c .and p => c.tree.andLast p.tree
  | .join c .or p => .or c.tree p.tree

end

theorem Primary.isOr_tree (p : Primary) : p.tree.isOr = false := by
  cases p <;> rfl

theorem Primary.isAnd_tree (p : Primary) : p.tree.isAnd = false := by
  cases p <;> rfl

/-- A tree without an open connective goes behind an `and` into the last alternative of the tree
before it. -/
theorem IsTree.andLast {ts us : List Token} {o : Token} {f e : Filter} (hf : IsTree ts f)
    (ho : o.isKeyword "and" = true) (he : IsTree us e) (hor : e.isOr = false)
    (hand : e.isAnd = false) : IsTree (ts ++ o :: us) (f.andLast e) := by
  obtain ⟨hspells, hgrouped⟩ := hf
  cases hspells with
  | atom hs hc => exact ⟨.and (.atom hs hc) ho he.1, rfl, hor, hand, hgrouped, he.2⟩
  | and hl hw hr => exact ⟨.and (.and hl hw hr) ho he.1, rfl, hor, hand, hgrouped, he.2⟩
  | group hl hi hr => exact ⟨.and (.group hl hi hr) ho he.1, rfl, hor, hand, hgrouped, he.2⟩
  | @or ts vs w l r hl hw hr =>
    -- The tokens stay in their order, but the `and` is now below the `or`.
    obtain ⟨hror, hgl, hgr⟩ := hgrouped
    rw [List.append_assoc, List.cons_append]
    exact ⟨.or hl hw (.and hr ho he.1), rfl, hgl, hror, hor, hand, hgr, he.2⟩

mutual

theorem Primary.Spells.isTree : ∀ {p : Primary} {ts : List Token}, p.Spells ts →
    IsTree ts p.tree
  | .predicate _, _, .predicate hs hc => ⟨.atom hs hc, trivial⟩
  | .parentheses _, _, .parentheses hl hc hr =>
    ⟨.group hl hc.isTree.1 hr, hc.isTree.2⟩

theorem Chain.Spells.isTree : ∀ {c : Chain} {ts : List Token}, c.Spells ts → IsTree ts c.tree
  | .single _, _, .single hp => hp.isTree
  | .join _ .and p, _, .join hc ho hp => hc.isTree.andLast ho hp.isTree p.isOr_tree p.isAnd_tree
  | .join _ .or p, _, .join hc ho hp =>
    ⟨.or hc.isTree.1 ho hp.isTree.1, p.isOr_tree, hc.isTree.2, hp.isTree.2⟩

end

/-! ### The truth of the tree -/

theorem Primary.isTrue_predicate {r : Record} {p : Predicate} :
    (Primary.predicate p).IsTrue r ↔ p.holds r = true := by
  rw [Predicate.holds]
  constructor
  · intro h
    cases h with
    | predicate hof haccepts => rw [hof]; exact haccepts
  · intro h
    split at h
    · next hof => exact .predicate hof h
    · cases h

theorem Primary.isTrue_parentheses {r : Record} {c : Chain} :
    (Primary.parentheses c).IsTrue r ↔ c.IsTrue r := by
  constructor
  · intro h
    cases h with
    | parentheses hrun hall => exact ⟨_, _, hrun, hall⟩
  · intro ⟨i, j, hrun, hall⟩
    exact .parentheses hrun hall

mutual

theorem Primary.holds_tree (r : Record) : ∀ p : Primary, p.tree.holds r = true ↔ p.IsTrue r
  | .predicate p => by
    rw [Primary.isTrue_predicate]
    rfl
  | .parentheses c => by
    obtain ⟨hearlier, hlast⟩ := c.holds_tree r
    rw [Primary.isTrue_parentheses, Chain.isTrue_iff, ← hearlier, ← hlast, ← Bool.or_eq_true,
      ← Formula.holds_eq]
    rfl

/-- The last alternative of a chain's tree is true exactly if the chain's last run is, and one of
the others exactly if an earlier run is. -/
theorem Chain.holds_tree (r : Record) : ∀ c : Chain,
    (c.tree.holdsEarlier (·.holds r) = true ↔ c.IsTrueEarlier r) ∧
      (c.tree.holdsLast (·.holds r) = true ↔ c.IsTrueLast r)
  | .single p => by
    rw [Chain.tree, Formula.holdsEarlier_of_isOr p.isOr_tree, Formula.holdsLast_of_isOr p.isOr_tree]
    exact ⟨⟨nofun, fun h => (Chain.isTrueEarlier_single h).elim⟩,
      (p.holds_tree r).trans Chain.isTrueLast_single.symm⟩
  | .join c .and p => by
    obtain ⟨hearlier, hlast⟩ := c.holds_tree r
    rw [Chain.tree, Formula.holdsEarlier_andLast, Formula.holdsLast_andLast, Bool.and_eq_true,
      Chain.isTrueEarlier_join_and, Chain.isTrueLast_join_and, hearlier, hlast]
    exact ⟨Iff.rfl, and_congr_right fun _ => p.holds_tree r⟩
  | .join c .or p => by
    obtain ⟨hearlier, hlast⟩ := c.holds_tree r
    rw [Chain.isTrueEarlier_join_or, Chain.isTrueLast_join_or, Chain.isTrue_iff, ← hearlier,
      ← hlast, ← Bool.or_eq_true, ← Formula.holds_eq]
    exact ⟨Iff.rfl, p.holds_tree r⟩

end

theorem Chain.holds_tree_iff (r : Record) (c : Chain) : c.tree.holds r = true ↔ c.IsTrue r := by
  obtain ⟨hearlier, hlast⟩ := c.holds_tree r
  rw [Chain.isTrue_iff, ← hearlier, ← hlast, ← Bool.or_eq_true, ← Formula.holds_eq]
  rfl

/-! ### Whatever has a tree is a chain -/

def Chain.append (c : Chain) (o : Connective) : Chain → Chain
  | single p => join c o p
  | join d w p => join (c.append o d) w p

theorem Chain.Spells.append {ts : List Token} {c : Chain} {t : Token} {o : Connective}
    (hc : c.Spells ts) (ht : t.isKeyword o.word = true) : ∀ {d : Chain} {us : List Token},
    d.Spells us → (c.append o d).Spells (ts ++ t :: us)
  | .single _, _, .single hp => .join hc ht hp
  | .join d w p, us, h => by
    cases h with
    | @join vs ws x _ _ _ hd hx hp =>
      rw [← List.cons_append, ← List.append_assoc]
      exact .join (hc.append ht hd) hx hp

theorem Spells.exists_chain {ts : List Token} {e : Filter} (h : Spells ts e) :
    ∃ c : Chain, c.Spells ts := by
  induction h with
  | atom hs hc => exact ⟨_, .single (.predicate hs hc)⟩
  | and _ ho _ ihl ihr =>
    obtain ⟨c, hc⟩ := ihl
    obtain ⟨d, hd⟩ := ihr
    exact ⟨_, hc.append (o := .and) ho hd⟩
  | or _ ho _ ihl ihr =>
    obtain ⟨c, hc⟩ := ihl
    obtain ⟨d, hd⟩ := ihr
    exact ⟨_, hc.append (o := .or) ho hd⟩
  | group hl _ hr ih =>
    obtain ⟨c, hc⟩ := ih
    exact ⟨_, .single (.parentheses hl hc hr)⟩

/-! ### Reading tokens -/

theorem State.steps_of_run {e : Filter} : ∀ (ts : List Token) {s : State}, s.run ts = .ok e →
    ∃ s' stop, s.steps (ts.takeWhile (!·.isStop)) = .ok s' ∧ s'.finish stop = .ok e
  | [], s, h => ⟨s, _, rfl, h⟩
  | t :: ts, s, h => by
    rw [State.run] at h
    split at h
    · next ht =>
      rw [List.takeWhile_cons_of_neg (by simp [ht])]
      exact ⟨s, t, rfl, h⟩
    · next ht =>
      rw [List.takeWhile_cons_of_pos (by simp [ht]), State.steps]
      cases hstep : s.step t with
      | error f => rw [hstep] at h; cases h
      | ok s₁ =>
        rw [hstep] at h
        exact State.steps_of_run ts h

/-- A sentinel that is added behind tokens does not change those before the first one. -/
theorem takeWhile_terminated (ts : List Token) :
    (Token.terminated ts).takeWhile (!·.isStop) = ts.takeWhile (!·.isStop) := by
  have hstop : ∀ k, [Token.stop k].takeWhile (!·.isStop) = [] := fun _ => rfl
  rw [Token.terminated]
  split
  · next hnil =>
    rw [List.getLast?_eq_none_iff.mp hnil]
    exact hstop 0
  · split
    · rfl
    · rw [List.takeWhile_append]
      split
      · next hall => rw [hstop, List.append_nil, List.IsPrefix.eq_of_length
          (List.takeWhile_prefix _) hall]
      · rfl

theorem isTree_of_ofTokens_eq_ok {ts : List Token} {e : Filter} (h : ofTokens ts = .ok e) :
    IsTree (ts.takeWhile (!·.isStop)) e := by
  obtain ⟨s, stop, hsteps, hfinish⟩ := State.steps_of_run _ h
  rw [takeWhile_terminated] at hsteps
  exact (State.Reads.steps _ State.reads_start hsteps).finish hfinish

/-- Tokens are a chain, and a filter holds of a record exactly if the chain is true of it. -/
structure MeansChain (ts : List Token) (e : Filter) : Prop where
  isChain : ∃ c : Chain, c.Spells ts
  holds_iff : ∀ c : Chain, c.Spells ts → ∀ r, e.holds r = true ↔ c.IsTrue r

theorem IsTree.meansChain {ts : List Token} {e : Filter} (h : IsTree ts e)
    (hts : ∀ t ∈ ts, t.isStop = false) : MeansChain ts e := by
  refine ⟨h.1.exists_chain, fun c hc r => ?_⟩
  -- Reading the tokens gives their tree, whichever way it is known, so there is only one.
  have hread : Filter.ofTokens (ts ++ [.stop 0]) = .ok e := h.ofTokens rfl hts
  have htree : Filter.ofTokens (ts ++ [.stop 0]) = .ok c.tree := hc.isTree.ofTokens rfl hts
  obtain rfl : e = c.tree := Except.ok.inj (hread.symm.trans htree)
  exact c.holds_tree_iff r

/-- **A filter holds exactly if some run of its chain is true throughout.** Whatever is read as a
filter, from tokens or from a text, is a chain of predicates and of chains in parentheses; the
filter holds of a record exactly if all members of some run that is joined by `and`, and that no
`and` joins to another member, are true of the record, where a chain in parentheses is judged by the
same rule. A predicate about a part that the record lacks is not true. -/
theorem holds_iff_some_run_isTrue :
    (∀ ts e, ofTokens ts = .ok e → MeansChain (ts.takeWhile (!·.isStop)) e) ∧
    (∀ text e, parse text = .ok e → ∃ ts last, Token.tokenize text = .ok (ts ++ [.stop last]) ∧
      MeansChain ts e) ∧
    (∀ (r : Record) s c, s.of r = none → ¬ (Primary.predicate ⟨s, c⟩).IsTrue r) := by
  refine ⟨fun ts e h => ?_, fun text e h => ?_, fun r s c hof h => ?_⟩
  · refine (isTree_of_ofTokens_eq_ok h).meansChain fun t ht => ?_
    have hkept := List.mem_takeWhile_imp ht
    simpa using hkept
  · obtain ⟨ts, last, htokens, hts, htree⟩ := exists_tree_of_parse h
    exact ⟨ts, last, htokens, htree.meansChain hts⟩
  · cases h with
    | predicate hsome _ => rw [hof] at hsome; cases hsome

/-- An `and` behind an `or` belongs to what is between them: the name alone is not enough. -/
theorem name_needs_site :
    let text := "user is me or site contains X and . is mail"
    let r : Record := .blank "mail" (.ofRandom []) (.utc 0)
    let s : Record := { r with fields := [⟨"site", "xyz", false⟩] }
    ∃ (e : Filter) (ts : List Token) (last : Nat) (c : Chain), parse text = .ok e ∧
      Token.tokenize text = .ok (ts ++ [.stop last]) ∧ c.Spells ts ∧
      (e.holds r = false ∧ ¬ c.IsTrue r) ∧ (e.holds s = true ∧ c.IsTrue s) ∧
      ¬ (Primary.predicate ⟨.field "site", .contains "X"⟩).IsTrue r := by
  intro text r s
  let e : Filter := .or (.atom ⟨.field "user", .is "me"⟩)
    (.and (.atom ⟨.field "site", .contains "X"⟩) (.atom ⟨.name, .is "mail"⟩))
  have hread : parse text = .ok e := by decide +kernel
  have hr : e.holds r = false := by decide +kernel
  have hs : e.holds s = true := by decide +kernel
  obtain ⟨-, hparse, hlacks⟩ := holds_iff_some_run_isTrue
  obtain ⟨ts, last, htokens, ⟨c, hc⟩, hiff⟩ := hparse text e hread
  refine ⟨e, ts, last, c, hread, htokens, hc, ⟨hr, fun h => ?_⟩, ⟨hs, (hiff c hc s).mp hs⟩,
    hlacks r _ _ rfl⟩
  rw [← hiff c hc r, hr] at h
  cases h

end Filter

end Coffer
