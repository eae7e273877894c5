import Coffer.Proofs.Number.Rounding

/-!
The shortest decimal of a floating-point number reads back as that number. Seventeen digits are
always enough: their grid is finer than the distance of the halfway points around the number, so the
search finds a decimal between them (`near_shortest`), and from there every reader comes back to the
number (`ofDecimal_of_near`).
-/

namespace Coffer.Binary64

def Decimal.value (d : Decimal) : ℚ :=
  d.digits * 10 ^ d.exponent

/-! ### Powers of ten -/

theorem zpow_eq_div (b : ℚ) (hb : b ≠ 0) (k : Int) : b ^ k = b ^ k.toNat / b ^ (-k).toNat := by
  rw [← zpow_natCast, ← zpow_natCast, ← zpow_sub₀ hb]
  congr 1
  omega

/-- The number of digits of a positive number tells between which powers of ten it lies. -/
theorem digitCount_spec {n : Nat} (hn : 0 < n) :
    0 < digitCount n ∧ 10 ^ (digitCount n - 1) ≤ n ∧ n < 10 ^ digitCount n := by
  have hpos : 0 < n.repr.length := Nat.length_repr_pos
  rw [digitCount, if_neg hn.ne', Nat.toString_eq_repr]
  refine ⟨hpos, ?_, (Nat.length_repr_le_iff hpos).mp (le_refl _)⟩
  by_contra hlt
  rw [not_le] at hlt
  rcases Nat.eq_zero_or_pos (n.repr.length - 1) with h0 | h0
  · rw [h0, pow_zero] at hlt
    omega
  · have := (Nat.length_repr_le_iff h0).mpr hlt
    omega

theorem digitCount_zpow {n : Nat} (hn : 0 < n) :
    (10 : ℚ) ^ ((digitCount n : Int) - 1) ≤ n ∧ (n : ℚ) < 10 ^ (digitCount n : Int) := by
  obtain ⟨hpos, hlo, hhi⟩ := digitCount_spec hn
  have h : (digitCount n : Int) - 1 = ((digitCount n - 1 : Nat) : Int) := by omega
  rw [h, zpow_natCast, zpow_natCast]
  exact ⟨by exact_mod_cast hlo, by exact_mod_cast hhi⟩

theorem ten_exponent_lt {a b : Int} (h : (10 : ℚ) ^ a < 10 ^ b) : a < b :=
  (zpow_lt_zpow_iff_right₀ (by norm_num)).mp h

theorem decimalTop_spec {num den : Nat} (hn : 0 < num) (hd : 0 < den) :
    (10 : ℚ) ^ (decimalTop num den - 1) ≤ num / den ∧
      (num / den : ℚ) < 10 ^ decimalTop num den := by
  have hd' : (0 : ℚ) < den := by exact_mod_cast hd
  obtain ⟨hnlo, hnhi⟩ := digitCount_zpow hn
  obtain ⟨hdlo, hdhi⟩ := digitCount_zpow hd
  unfold decimalTop
  dsimp only
  set guess : Int := (digitCount num : Int) - digitCount den with hguess
  -- The counts of digits leave two candidates.
  have hlo : (10 : ℚ) ^ (guess - 1) ≤ num / den := by
    rw [le_div_iff₀ hd']
    calc (10 : ℚ) ^ (guess - 1) * den ≤ 10 ^ (guess - 1) * 10 ^ (digitCount den : Int) := by gcongr
      _ = 10 ^ ((digitCount num : Int) - 1) := by
        rw [← zpow_add₀ (by norm_num)]; congr 1; omega
      _ ≤ num := hnlo
  have hhi : (num / den : ℚ) < 10 ^ (guess + 1) := by
    rw [div_lt_iff₀ hd']
    calc (num : ℚ) < 10 ^ (digitCount num : Int) := hnhi
      _ = 10 ^ (guess + 1) * 10 ^ ((digitCount den : Int) - 1) := by
        rw [← zpow_add₀ (by norm_num)]; congr 1; omega
      _ ≤ 10 ^ (guess + 1) * den := by gcongr
  have hpos : (0 : ℚ) < (scaleDown 10 num den guess).2 := by
    exact_mod_cast scaleDown_pos num (by omega) hd guess
  -- The comparison that is made in whole numbers tells them apart.
  have hiff : (scaleDown 10 num den guess).1 < (scaleDown 10 num den guess).2 ↔
      (num / den : ℚ) < 10 ^ guess := by
    rw [← Nat.cast_lt (α := ℚ), ← div_lt_one hpos, scaleDown_eq (by omega), Nat.cast_ofNat,
      div_lt_one (by positivity)]
  split
  · next h => exact ⟨hlo, hiff.mp h⟩
  · next h =>
    rw [hiff, not_lt] at h
    refine ⟨?_, hhi⟩
    rwa [show guess + 1 - 1 = guess by omega]

/-! ### Grids of decimals -/

variable {low mid high den : Nat} {closed : Bool} {k : Int}

/-- Whether a value lies between two bounds, given in quarters over `den`. -/
def Between (low high den : Nat) (closed : Bool) (x : ℚ) : Prop :=
  if closed then low ≤ x * (4 * den) ∧ x * (4 * den) ≤ high
  else low < x * (4 * den) ∧ x * (4 * den) < high

theorem isWithin_iff (c : Nat) :
    isWithin low high den closed k c = true ↔ Between low high den closed (c * 10 ^ k) := by
  have hscale : (0 : ℚ) < 10 ^ (-k).toNat := by positivity
  have hvalue : (c * 10 ^ k * (4 * den) : ℚ) =
      (c * Nat.pow 10 k.toNat * 4 * den : ℕ) / 10 ^ (-k).toNat := by
    rw [zpow_eq_div 10 (by norm_num)]
    push_cast [Nat.pow_eq]
    ring
  -- Both sides are multiplied by the denominator, so that whole numbers are compared.
  have hle : ∀ b : Nat, (b : ℚ) ≤ c * 10 ^ k * (4 * den) ↔
      b * Nat.pow 10 (-k).toNat ≤ c * Nat.pow 10 k.toNat * 4 * den := by
    intro b
    rw [hvalue, le_div_iff₀ hscale, ← Nat.cast_le (α := ℚ)]
    push_cast [Nat.pow_eq]
    rfl
  have hge : ∀ b : Nat, c * 10 ^ k * (4 * den) ≤ (b : ℚ) ↔
      c * Nat.pow 10 k.toNat * 4 * den ≤ b * Nat.pow 10 (-k).toNat := by
    intro b
    rw [hvalue, div_le_iff₀ hscale, ← Nat.cast_le (α := ℚ)]
    push_cast [Nat.pow_eq]
    rfl
  unfold isWithin Between
  cases closed
  · simp only [Bool.false_eq_true, if_false, Bool.and_eq_true, decide_eq_true_eq]
    rw [← not_le, ← not_le, ← not_le, ← not_le, hge, hle]
  · simp only [if_true, Bool.and_eq_true, decide_eq_true_eq]
    rw [hle, hge]

theorem between_of_nearestOnGrid {d : Decimal}
    (h : nearestOnGrid low mid high den closed k = some d) : Between low high den closed d.value := by
  have hgoal : d.exponent = k ∧ isWithin low high den closed k d.digits = true := by
    unfold nearestOnGrid at h
    dsimp only at h
    split at h
    · next h1 h2 =>
      cases h
      refine ⟨rfl, ?_⟩
      dsimp only
      split
      · exact h1
      · exact h2
    · next h1 _ => cases h; exact ⟨rfl, h1⟩
    · next _ h2 => cases h; exact ⟨rfl, h2⟩
    · cases h
  obtain ⟨hk, hwithin⟩ := hgoal
  rw [Decimal.value, hk]
  exact (isWithin_iff d.digits).mp hwithin

/-- Of two neighbours on a grid around the middle, one lies between the bounds if these are further
apart than the neighbours. -/
theorem isWithin_or_succ {c : Nat} (hlow : low < mid) (hhigh : mid < high)
    (hfine : (10 : ℚ) ^ k * (4 * den) < high - low) (hbelow : (c : ℚ) * 10 ^ k * (4 * den) ≤ mid)
    (habove : (mid : ℚ) ≤ ((c + 1 : ℕ) : ℚ) * 10 ^ k * (4 * den)) :
    isWithin low high den closed k c = true ∨ isWithin low high den closed k (c + 1) = true := by
  have hlow' : (low : ℚ) < mid := by exact_mod_cast hlow
  have hhigh' : (mid : ℚ) < high := by exact_mod_cast hhigh
  have hnext : ((c + 1 : ℕ) : ℚ) * 10 ^ k * (4 * den) =
      c * 10 ^ k * (4 * den) + 10 ^ k * (4 * den) := by
    push_cast
    ring
  rw [isWithin_iff, isWithin_iff]
  by_contra hnone
  obtain ⟨h1, h2⟩ := not_or.mp hnone
  unfold Between at h1 h2
  -- Otherwise the neighbours are beyond the two bounds, and further apart than these.
  cases closed
  · simp only [Bool.false_eq_true, if_false, not_and, not_lt] at h1 h2
    have h1' : (c : ℚ) * 10 ^ k * (4 * den) ≤ low := by
      by_contra hc
      have := h1 (not_le.mp hc)
      linarith
    have h2' := h2 (by linarith)
    linarith
  · simp only [if_true, not_and, not_le] at h1 h2
    have h1' : (c : ℚ) * 10 ^ k * (4 * den) < low := by
      by_contra hc
      have := h1 (not_lt.mp hc)
      linarith
    have h2' := h2 (by linarith)
    linarith

theorem isSome_nearestOnGrid (hd : 0 < den) (hlow : low < mid) (hhigh : mid < high)
    (hfine : (10 : ℚ) ^ k * (4 * den) < high - low) :
    (nearestOnGrid low mid high den closed k).isSome := by
  have hd4 : (0 : ℚ) < 4 * den := by
    have : (0 : ℚ) < den := by exact_mod_cast hd
    linarith
  have hstep : (0 : ℚ) < 10 ^ k := by positivity
  have hpos := scaleDown_pos mid (by omega : 0 < 10) (Nat.mul_pos (by omega) hd : 0 < 4 * den) k
  have hscaled := scaleDown_eq (by omega : 0 < 10) mid (4 * den) k
  unfold nearestOnGrid
  dsimp only
  generalize scaleDown 10 mid (4 * den) k = x at hpos hscaled
  have hpos' : (0 : ℚ) < x.2 := by exact_mod_cast hpos
  have hx : (mid : ℚ) = x.1 / x.2 * (10 ^ k * (4 * den)) := by
    rw [hscaled]
    push_cast
    field_simp
  -- the multiples of the step on both sides of the middle
  have hbelow : ((x.1 / x.2 : ℕ) : ℚ) * 10 ^ k * (4 * den) ≤ mid := by
    have h : ((x.1 / x.2 : ℕ) : ℚ) ≤ x.1 / x.2 := Nat.cast_div_le
    rw [hx, mul_assoc]
    gcongr
  have habove : (mid : ℚ) ≤ ((x.1 / x.2 + 1 : ℕ) : ℚ) * 10 ^ k * (4 * den) := by
    have h : (x.1 / x.2 : ℚ) ≤ ((x.1 / x.2 + 1 : ℕ) : ℚ) := by
      rw [div_le_iff₀ hpos']
      have := (Nat.div_lt_iff_lt_mul hpos).mp (Nat.lt_succ_self (x.1 / x.2))
      exact_mod_cast this.le
    rw [hx, mul_assoc]
    gcongr
  generalize x.1 / x.2 = c at hbelow habove
  have hone : isWithin low high den closed k c = true ∨
      isWithin low high den closed k (c + 1) = true :=
    isWithin_or_succ hlow hhigh hfine hbelow habove
  rcases hone with h | h
  · rw [h]
    cases isWithin low high den closed k (c + 1) <;> rfl
  · rw [h]
    cases isWithin low high den closed k c <;> rfl

theorem between_searchGrids {top : Int} : ∀ (tries places n : Nat), n < tries →
    (nearestOnGrid low mid high den closed (top - (places + n : ℕ))).isSome →
    Between low high den closed (searchGrids low mid high den closed top tries places).value
  | 0, _, _, hn, _ => absurd hn (Nat.not_lt_zero _)
  | tries + 1, places, n, hn, hsome => by
    rw [searchGrids]
    cases hgrid : nearestOnGrid low mid high den closed (top - places) with
    | some d => exact between_of_nearestOnGrid hgrid
    | none =>
      cases n with
      | zero =>
        rw [Nat.add_zero, hgrid] at hsome
        cases hsome
      | succ n =>
        refine between_searchGrids tries (places + 1) n (by omega) ?_
        rwa [show places + 1 + n = places + (n + 1) by omega]

/-! ### The shortest decimal -/

theorem value_trim : ∀ (n : Nat) (d : Decimal), (d.trim n).value = d.value
  | 0, _ => rfl
  | n + 1, d => by
    rw [Decimal.trim]
    split
    · next h =>
      rw [value_trim n, Decimal.value, Decimal.value]
      have hdigits : (d.digits : ℚ) = 10 * (d.digits / 10 : ℕ) := by
        have := Nat.div_add_mod d.digits 10
        rw [h.1, Nat.add_zero] at this
        exact_mod_cast this.symm
      rw [hdigits, zpow_add_one₀ (by norm_num)]
      ring
    · rfl

theorem digits_pos_of_value {d : Decimal} (h : 0 < d.value) : 0 < d.digits := by
  rcases Nat.eq_zero_or_pos d.digits with h0 | h0
  · rw [Decimal.value, h0, Nat.cast_zero, zero_mul] at h
    exact absurd h (lt_irrefl 0)
  · exact h0

theorem lower_pos {m : Nat} (hm : 0 < m) (e : Int) : 0 < lower m e := by
  have he : (0 : ℚ) < 2 ^ e := by positivity
  have hm' : (1 : ℚ) ≤ m := by exact_mod_cast hm
  refine lt_of_lt_of_le ?_ (half_le_lower m e)
  nlinarith

/-- A number of 53 bits is less than 10 ^ 16 times as far from zero as its halfway points are from
each other. -/
theorem lt_width {m : Nat} {e : Int} (h : Fits m e) :
    (m : ℚ) * 2 ^ e < (upper m e - lower m e) * 10 ^ (16 : ℤ) := by
  have he : (0 : ℚ) < 2 ^ e := by positivity
  unfold upper lower
  split
  · next hp =>
    have hm : (m : ℚ) = 2 ^ (52 : ℤ) := by rw [hp.1]; norm_num
    have hpowers : (2 : ℚ) ^ (52 : ℤ) < 3 / 4 * 10 ^ (16 : ℤ) := by norm_num
    rw [hm]
    nlinarith
  · have hm : (m : ℚ) < 2 ^ (53 : ℤ) := by exact_mod_cast h.lt
    have hpowers : (2 : ℚ) ^ (53 : ℤ) < 10 ^ (16 : ℤ) := by norm_num
    nlinarith

theorem near_of_between {m : Nat} {e : Int} {x : ℚ} (hd : 0 < den)
    (hlow : (low : ℚ) = lower m e * (4 * den)) (hhigh : (high : ℚ) = upper m e * (4 * den))
    (h : Between low high den (m % 2 == 0) x) : Near m e x := by
  have h4 : (0 : ℚ) < 4 * den := by positivity
  unfold Between at h
  unfold Near
  rw [hlow, hhigh] at h
  by_cases heven : m % 2 = 0
  · rw [if_pos (by simpa using heven)] at h
    rw [if_pos heven]
    exact ⟨le_of_mul_le_mul_right h.1 h4, le_of_mul_le_mul_right h.2 h4⟩
  · rw [if_neg (by simpa using heven)] at h
    rw [if_neg heven]
    exact ⟨lt_of_mul_lt_mul_right h.1 h4.le, lt_of_mul_lt_mul_right h.2 h4.le⟩

/-- The shortest decimal of a positive number is rounded to it. -/
theorem near_shortest {m : Nat} {e : Int} (hm : 0 < m) (h : Fits m e) :
    Near m e (shortest m e).value := by
  have he : (0 : ℚ) < 2 ^ e := by positivity
  rw [shortest, if_neg hm.ne', value_trim]
  set unit := Nat.pow 2 e.toNat with hunit
  set den := Nat.pow 2 (-e).toNat with hden
  have hupos : 0 < unit := Nat.pow_pos (by omega)
  have hdpos : 0 < den := Nat.pow_pos (by omega)
  have hdpos' : (0 : ℚ) < den := by exact_mod_cast hdpos
  have hpow : (unit : ℚ) = 2 ^ e * den := by
    rw [zpow_eq_div 2 (by norm_num), hunit, hden]
    push_cast [Nat.pow_eq]
    field_simp
  set low := if m = Nat.pow 2 52 ∧ e > minExponent then 4 * (m * unit) - unit
    else 4 * (m * unit) - 2 * unit with hlow
  set high := 4 * (m * unit) + 2 * unit with hhigh
  have hmu : unit ≤ m * unit := Nat.le_mul_of_pos_left unit hm
  -- The bounds of the search are the halfway points, in whole numbers.
  have hlow' : (low : ℚ) = lower m e * (4 * den) := by
    unfold lower
    rw [hlow]
    by_cases hp : m = 2 ^ 52 ∧ e > minExponent
    · have hp' : m = Nat.pow 2 52 ∧ e > minExponent := hp
      rw [if_pos hp, if_pos hp', Nat.cast_sub (by omega)]
      push_cast
      rw [hpow]
      ring
    · have hp' : ¬(m = Nat.pow 2 52 ∧ e > minExponent) := hp
      rw [if_neg hp, if_neg hp', Nat.cast_sub (by omega)]
      push_cast
      rw [hpow]
      ring
  have hhigh' : (high : ℚ) = upper m e * (4 * den) := by
    rw [upper, hhigh]
    push_cast
    rw [hpow]
    ring
  refine near_of_between hdpos hlow' hhigh' (between_searchGrids 17 1 16 (by omega) ?_)
  have hmid : 4 * (m * unit) - 2 * unit ≤ low ∧ low ≤ 4 * (m * unit) - unit := by
    rw [hlow]; split <;> omega
  refine isSome_nearestOnGrid hdpos (by omega) (by omega) ?_
  -- the step is at most the number over 10 ^ 16, and the significand is below that
  obtain ⟨htop, -⟩ := decimalTop_spec (Nat.mul_pos hm hupos) hdpos
  have hnum : ((m * unit : ℕ) / den : ℚ) = m * 2 ^ e := by
    push_cast
    rw [hpow]
    field_simp
  rw [hnum] at htop
  have hstep : (10 : ℚ) ^ (decimalTop (m * unit) den - (1 + 16 : ℕ)) * 10 ^ (16 : ℤ) ≤
      m * 2 ^ e := by
    rw [← zpow_add₀ (by norm_num)]
    refine le_trans (le_of_eq ?_) htop
    congr 1
    push_cast
    ring
  have hgap := lt_width h
  rw [hlow', hhigh', ← sub_mul]
  refine mul_lt_mul_of_pos_right ?_ (by linarith)
  have h16 : (0 : ℚ) < 10 ^ (16 : ℤ) := by positivity
  exact lt_of_mul_lt_mul_right (hstep.trans_lt hgap) h16.le

/-! ### Reading it back -/

theorem two_pow_le_ten_pow : (2 : ℚ) ^ (1200 : ℤ) ≤ 10 ^ (400 : ℤ) := by
  calc (2 : ℚ) ^ (1200 : ℤ) = (2 ^ (3 : ℤ)) ^ (400 : ℤ) := by rw [← zpow_mul]; norm_num
    _ ≤ 10 ^ (400 : ℤ) := zpow_le_zpow_left₀ (by norm_num) (by norm_num) (by norm_num)

/-- Whatever is rounded to a positive number lies well within the powers of ten that are looked at.
-/
theorem Near.magnitude {m : Nat} {e : Int} {x : ℚ} (hm : 0 < m) (hfits : Fits m e)
    (h : Near m e x) : (10 : ℚ) ^ (-400 : ℤ) < x ∧ x < 10 ^ (400 : ℤ) := by
  have hm' : (1 : ℚ) ≤ m := by exact_mod_cast hm
  have hlt : (m : ℚ) + 1 ≤ 2 ^ (53 : ℤ) := by exact_mod_cast hfits.lt
  have hpos : (0 : ℚ) < 2 ^ e := by positivity
  have hhalf : (2 : ℚ) ^ e = 2 * 2 ^ (e - 1) := by
    rw [← zpow_one_add₀ (by norm_num)]; congr 1; omega
  constructor
  · have hmin : minExponent ≤ e := hfits.least
    calc (10 : ℚ) ^ (-400 : ℤ) = (10 ^ (400 : ℤ))⁻¹ := zpow_neg 10 400
      _ ≤ (2 ^ (1200 : ℤ))⁻¹ := inv_anti₀ (by positivity) two_pow_le_ten_pow
      _ = 2 ^ (-1200 : ℤ) := (zpow_neg 2 1200).symm
      _ < 2 ^ (e - 1) := by
        refine zpow_lt_zpow_right₀ (by norm_num) ?_
        unfold minExponent at hmin
        omega
      _ ≤ (m - 1 / 2) * 2 ^ e := by nlinarith
      _ ≤ lower m e := half_le_lower m e
      _ ≤ x := h.bounds.1
  · have hmax : e ≤ maxExponent := hfits.most
    calc x ≤ upper m e := h.bounds.2
      _ < 2 ^ (53 : ℤ) * 2 ^ e := by rw [upper]; nlinarith
      _ = 2 ^ (53 + e) := by rw [← zpow_add₀ (by norm_num)]
      _ ≤ 2 ^ (1200 : ℤ) := by
        refine zpow_le_zpow_right₀ (by norm_num) ?_
        unfold maxExponent at hmax
        omega
      _ ≤ 10 ^ (400 : ℤ) := two_pow_le_ten_pow

/-- A decimal between the halfway points around a positive number is read as that number. -/
theorem ofDecimal_of_near (negative : Bool) {m digits : Nat} {e exponent : Int} (hm : 0 < m)
    (hfits : Fits m e) (h : Near m e (digits * 10 ^ exponent)) :
    ofDecimal negative digits exponent = .finite negative m e := by
  obtain ⟨hsmall, hlarge⟩ := h.magnitude hm hfits
  have hdigits : 0 < digits := by
    have h0 : (0 : ℚ) < 10 ^ (-400 : ℤ) := by positivity
    exact digits_pos_of_value (d := ⟨digits, exponent⟩) (h0.trans hsmall)
  obtain ⟨hlo, hhi⟩ := digitCount_zpow hdigits
  have hten : (0 : ℚ) < 10 ^ exponent := by positivity
  -- The two shortcuts for numbers far too small or too great do not apply.
  have hlow : ¬((digitCount digits : Int) + exponent < -400) := by
    have : (10 : ℚ) ^ (-400 : ℤ) < 10 ^ ((digitCount digits : Int) + exponent) := by
      rw [zpow_add₀ (by norm_num)]
      nlinarith
    have := ten_exponent_lt this
    omega
  have hhigh : ¬((digitCount digits : Int) + exponent > 400) := by
    have : (10 : ℚ) ^ ((digitCount digits : Int) - 1 + exponent) < 10 ^ (400 : ℤ) := by
      rw [zpow_add₀ (by norm_num)]
      nlinarith
    have := ten_exponent_lt this
    omega
  rw [ofDecimal, if_neg (not_or.mpr ⟨hdigits.ne', hlow⟩), if_neg hhigh]
  -- What is left is a fraction, whose power of ten stands on one side only.
  have hsplit := zpow_eq_div (10 : ℚ) (by norm_num) exponent
  split
  · next hneg =>
    refine ofFraction_of_near negative (Nat.pow_pos (by omega)) hm hfits ?_
    rw [show exponent.toNat = 0 by omega, pow_zero, one_div] at hsplit
    rw [hsplit] at h
    rw [Nat.pow_eq]
    push_cast
    rwa [div_eq_mul_inv]
  · next hnonneg =>
    refine ofFraction_of_near negative Nat.one_pos hm hfits ?_
    rw [show (-exponent).toNat = 0 by omega, pow_zero, div_one] at hsplit
    rw [hsplit] at h
    rw [Nat.pow_eq]
    push_cast
    rwa [div_one]

theorem canonical_ofDecimal (negative : Bool) (digits : Nat) (exponent : Int) :
    Canonical (ofDecimal negative digits exponent) := by
  unfold ofDecimal
  dsimp only
  split
  · exact fits_zero
  split
  · trivial
  split
  · exact canonical_ofFraction negative _ (Nat.pow_pos (by omega))
  · exact canonical_ofFraction negative _ Nat.one_pos

/-- Reading the shortest decimal of a positive number, in whichever of its forms, gives the number.
-/
theorem ofDecimal_shortest (negative : Bool) {m : Nat} {e : Int} (hm : 0 < m) (h : Fits m e)
    {d : Decimal} (hd : d.value = (shortest m e).value) :
    ofDecimal negative d.digits d.exponent = .finite negative m e := by
  refine ofDecimal_of_near negative hm h ?_
  have := near_shortest hm h
  rwa [← hd] at this

end Coffer.Binary64
