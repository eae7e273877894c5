import Coffer.Proofs.Command.Listing
import Coffer.Proofs.Filter.Description
import Coffer.Vault.Query

/-!
How deep a filter may be. `Formula.within` finds the truth of a formula with a number of calls inside
each other. What it finds is the truth (`holds_of_within`), it finds it if there are as many calls as
the formula is high (`within_of_height_le`), and it finds nothing if the way down that always goes
left is longer (`within_of_lt_spine`). Reading takes no such room: however many predicates there are
in a row, they are read (`Command.parse_row`), each of them one further down to the left.
-/

namespace Coffer

namespace Formula

variable {α : Type} {test : α → Bool} {f : Formula α} {depth : Nat}

/-- The number of parts on the longest way down. -/
def height : Formula α → Nat
  | atom _ => 1
  | and l r | or l r => max l.height r.height + 1
  | group e => e.height + 1

/-- The number of parts on the way down that always goes left. -/
def spine : Formula α → Nat
  | atom _ => 1
  | and l _ | or l _ => l.spine + 1
  | group e => e.spine + 1

theorem within_of_height_le (h : f.height ≤ depth) : f.within test depth = some (f.holds test) := by
  induction f generalizing depth with
  | atom a =>
    obtain ⟨depth, rfl⟩ := Nat.exists_eq_add_of_le' h
    rfl
  | and l r ihl ihr | or l r ihl ihr =>
    obtain ⟨depth, rfl⟩ : ∃ d, depth = d + 1 :=
      Nat.exists_eq_add_of_le' (Nat.le_trans (Nat.le_add_left 1 _) h)
    have hboth : max l.height r.height ≤ depth := Nat.le_of_succ_le_succ h
    have hl := ihl (Nat.le_trans (Nat.le_max_left ..) hboth)
    have hr := ihr (Nat.le_trans (Nat.le_max_right ..) hboth)
    rw [within, hl, hr, holds]
    cases l.holds test <;> rfl
  | group e ih =>
    obtain ⟨depth, rfl⟩ : ∃ d, depth = d + 1 :=
      Nat.exists_eq_add_of_le' (Nat.le_trans (Nat.le_add_left 1 _) h)
    exact ih (Nat.le_of_succ_le_succ h)

theorem holds_of_within {b : Bool} (h : f.within test depth = some b) : f.holds test = b := by
  induction f generalizing depth b with
  | atom a =>
    cases depth with
    | zero => cases h
    | succ depth => exact Option.some.inj h
  | and l r ihl ihr | or l r ihl ihr =>
    cases depth with
    | zero => cases h
    | succ depth =>
      rw [within] at h
      cases hl : l.within test depth with
      | none =>
        rw [hl] at h
        cases h
      | some known =>
        -- The right part is asked only if the left one does not tell.
        rw [hl] at h
        rw [holds, ihl hl]
        cases known with
        | true => first | exact ihr h | exact Option.some.inj h
        | false => first | exact ihr h | exact Option.some.inj h
  | group e ih =>
    cases depth with
    | zero => cases h
    | succ depth => exact ih h

theorem within_of_lt_spine (h : depth < f.spine) : f.within test depth = none := by
  induction f generalizing depth with
  | atom a =>
    obtain rfl : depth = 0 := Nat.lt_one_iff.mp h
    rfl
  | and l r ihl | or l r ihl =>
    cases depth with
    | zero => rfl
    | succ depth => rw [within, ihl (Nat.lt_of_succ_lt_succ h)]
  | group e ih =>
    cases depth with
    | zero => rfl
    | succ depth => exact ih (Nat.lt_of_succ_lt_succ h)

/-- What is found hangs on the tests of the formula's own atoms only. -/
theorem within_congr {test' : α → Bool} (h : ∀ a ∈ f.atoms, test a = test' a) :
    f.within test depth = f.within test' depth := by
  induction f generalizing depth with
  | atom a =>
    cases depth with
    | zero => rfl
    | succ depth => exact congrArg some (h a (List.mem_singleton_self a))
  | and l r ihl ihr | or l r ihl ihr =>
    cases depth with
    | zero => rfl
    | succ depth =>
      have hl : l.within test depth = l.within test' depth :=
        ihl fun a ha => h a (List.mem_append_left _ ha)
      have hr : r.within test depth = r.within test' depth :=
        ihr fun a ha => h a (List.mem_append_right _ ha)
      rw [within, within, hl, hr]
  | group e ih =>
    cases depth with
    | zero => rfl
    | succ depth => exact ih h

end Formula

namespace Vault

variable {test : Record → Option Bool} {rs found : List Record} {v : Vault}

theorem sift_eq_none : sift test rs = none ↔ none ∈ rs.map test := by
  induction rs with
  | nil => simp [sift]
  | cons r rs ih =>
    rw [sift, List.map_cons, List.mem_cons, ← ih]
    cases test r with
    | none => simp
    | some passes => cases sift test rs <;> simp

theorem sift_eq_filter {p : Record → Bool} (htest : ∀ r ∈ rs, ∀ b, test r = some b → p r = b)
    (h : sift test rs = some found) : rs.filter p = found := by
  induction rs generalizing found with
  | nil =>
    cases h
    rfl
  | cons r rs ih =>
    obtain ⟨hr, hrs⟩ := List.forall_mem_cons.mp htest
    rw [sift] at h
    obtain ⟨passes, hpasses, h⟩ := Option.bind_eq_some_iff.mp h
    obtain ⟨rest, hrest, h⟩ := Option.bind_eq_some_iff.mp h
    cases h
    rw [List.filter_cons, hr passes hpasses, ih hrs hrest]

theorem reveal_of_reveal? {filter : Option Filter} (h : v.reveal? filter = some found) :
    v.reveal filter = found := by
  cases filter with
  | none => exact Option.some.inj h
  | some f => exact sift_eq_filter (fun _ _ _ => Formula.holds_of_within) h

theorem reveal?_eq_none {filter : Option Filter} :
    v.reveal? filter = none ↔ ∃ f, filter = some f ∧ ∃ r ∈ v.records, f.holds? r = none := by
  cases filter with
  | none => simp [reveal?]
  | some f => simp [reveal?, sift_eq_none, List.mem_map]

end Vault

/-! ### Rows of predicates -/

namespace Filter

/-- A predicate written down `n + 1` times in a row, with `or` between. -/
def row (p : Predicate) : Nat → Filter
  | 0 => .atom p
  | n + 1 => .or (row p n) (.atom p)

theorem spine_row (p : Predicate) (n : Nat) : (row p n).spine = n + 1 := by
  induction n with
  | zero => rfl
  | succ n ih => rw [row, Formula.spine, ih]

theorem wellGrouped_row (p : Predicate) (n : Nat) : (row p n).WellGrouped := by
  induction n with
  | zero => trivial
  | succ n ih => exact ⟨rfl, ih, trivial⟩

theorem written_row {p : Predicate} (hp : Written p.text (.atom p)) (n : Nat) :
    Written (row p n).describe (row p n) := by
  induction n with
  | zero => exact hp
  | succ n ih =>
    exact written_joined (show "or" ∈ Token.keywords by decide) (by decide) ih hp fun _ _ _ => .or

end Filter

theorem Command.parse_row {p : Predicate} (hp : Filter.Written p.text (.atom p)) (n : Nat) :
    Command.parse ("show " ++ (Filter.row p n).describe) =
      .ok (.show (some (Filter.row p n)) false) :=
  parse_show (Filter.parse_of_written (Filter.written_row hp n) (Filter.wellGrouped_row p n))

end Coffer
