import Mathlib
import Coffer.Number.Binary64

/-!
Rounding to 64-bit floating-point numbers. A fraction that lies between the halfway points around a
number is rounded to that number (`ofFraction_of_near`), and whatever comes out of rounding has a
significand and an exponent in range (`canonical_ofFraction`).
-/

namespace Coffer.Binary64

/-- The ranges of a significand and an exponent. Only the least exponent goes with significands of
fewer than 53 bits. -/
structure Fits (m : Nat) (e : Int) : Prop where
  lt : m < 2 ^ 53
  least : minExponent ≤ e
  most : e ≤ maxExponent
  normal : 2 ^ 52 ≤ m ∨ e = minExponent

/-- Whether a number is in the form that reading a decimal gives it. -/
def Canonical : Binary64 → Prop
  | .finite _ m e => Fits m e
  | _ => True

/-- The halfway point below `m * 2 ^ e`. At a power of two the numbers below lie closer together. -/
def lower (m : Nat) (e : Int) : ℚ :=
  if m = 2 ^ 52 ∧ e > minExponent then (m - 1 / 4) * 2 ^ e else (m - 1 / 2) * 2 ^ e

/-- The halfway point above `m * 2 ^ e`. -/
def upper (m : Nat) (e : Int) : ℚ :=
  (m + 1 / 2) * 2 ^ e

/-- Whether a value lies between the halfway points around `m * 2 ^ e`; they count if the
significand is even. -/
def Near (m : Nat) (e : Int) (x : ℚ) : Prop :=
  if m % 2 = 0 then lower m e ≤ x ∧ x ≤ upper m e else lower m e < x ∧ x < upper m e

theorem Near.bounds {m : Nat} {e : Int} {x : ℚ} (h : Near m e x) :
    lower m e ≤ x ∧ x ≤ upper m e := by
  unfold Near at h
  split at h
  · exact h
  · exact ⟨h.1.le, h.2.le⟩

theorem Near.even {m : Nat} {e : Int} {x : ℚ} (h : Near m e x)
    (hx : x = lower m e ∨ x = upper m e) : m % 2 = 0 := by
  by_contra hodd
  rw [Near, if_neg hodd] at h
  rcases hx with hx | hx
  · exact absurd h.1 (by rw [hx]; exact lt_irrefl _)
  · exact absurd h.2 (by rw [hx]; exact lt_irrefl _)

/-! ### Rounding a quotient -/

theorem le_roundDiv {num den k : Nat} (hd : 0 < den) (h : k * den ≤ num) :
    k ≤ roundDiv num den := by
  have hq : k ≤ num / den := (Nat.le_div_iff_mul_le hd).mpr h
  unfold roundDiv
  dsimp only
  split <;> omega

theorem roundDiv_le {num den k : Nat} (hd : 0 < den) (h : num ≤ k * den) :
    roundDiv num den ≤ k := by
  have hq : num / den ≤ k := Nat.div_le_of_le_mul (by rwa [Nat.mul_comm])
  unfold roundDiv
  dsimp only
  split
  · exact hq
  · next hup =>
    -- a quotient that is `k` already leaves nothing to round up
    rcases Nat.lt_or_ge (num / den) k with hlt | hge
    · omega
    · have hk : num / den = k := by omega
      have hmod := Nat.div_add_mod num den
      rw [hk, Nat.mul_comm] at hmod
      have hzero : num % den = 0 := by omega
      exact absurd (.inl (by omega)) hup

/-- The quotient rounded is the number that it differs from by at most a half, the even one if there
are two. -/
theorem roundDiv_eq {num den m : Nat} (hd : 0 < den) (hlo : 2 * (m * den) ≤ 2 * num + den)
    (hhi : 2 * num ≤ 2 * (m * den) + den)
    (htie : 2 * (m * den) = 2 * num + den ∨ 2 * num = 2 * (m * den) + den → m % 2 = 0) :
    roundDiv num den = m := by
  have hmod := Nat.div_add_mod num den
  have hlt := Nat.mod_lt num hd
  rcases Nat.lt_trichotomy m (num / den) with h | h | h
  · -- two quotients apart, or on the halfway point above `m`
    exfalso
    have h1 : m + 1 ≤ num / den := h
    have h2 : (m + 1) * den ≤ den * (num / den) := by
      rw [Nat.mul_comm den]; exact Nat.mul_le_mul_right den h1
    rw [Nat.add_mul] at h2
    omega
  · have hm : m * den = den * (num / den) := by rw [h, Nat.mul_comm]
    unfold roundDiv
    dsimp only
    rw [if_pos, h]
    by_cases hhalf : 2 * (num % den) < den
    · exact .inl hhalf
    · have heq : 2 * (num % den) = den := by omega
      exact .inr ⟨heq, h ▸ htie (.inr (by omega))⟩
  · have h1 : num / den + 1 ≤ m := h
    have h2 : (num / den + 1) * den ≤ m * den := Nat.mul_le_mul_right den h1
    have h3 : (num / den + 1) * den = den * (num / den) + den := by ring
    have hm : m = num / den + 1 := by
      by_contra hne
      have h4 : (num / den + 2) * den ≤ m * den := Nat.mul_le_mul_right den (by omega)
      have h5 : (num / den + 2) * den = den * (num / den) + 2 * den := by ring
      omega
    have hmd : m * den = den * (num / den) + den := by rw [hm, h3]
    unfold roundDiv
    dsimp only
    rw [if_neg, hm]
    rintro (hhalf | ⟨heq, heven⟩)
    · omega
    · have := htie (.inl (by omega))
      omega

theorem roundDiv_eq_of_rat {num den m : Nat} {x : ℚ} (hd : 0 < den) (hx : x = num / den)
    (hlo : m - 1 / 2 ≤ x) (hhi : x ≤ m + 1 / 2)
    (htie : x = m - 1 / 2 ∨ x = m + 1 / 2 → m % 2 = 0) : roundDiv num den = m := by
  have hd' : (0 : ℚ) < den := by exact_mod_cast hd
  have hnum : (num : ℚ) = x * den := by rw [hx]; field_simp
  have hlo' : (2 * (m * den) : ℚ) ≤ 2 * num + den := by rw [hnum]; nlinarith
  have hhi' : (2 * num : ℚ) ≤ 2 * (m * den) + den := by rw [hnum]; nlinarith
  refine roundDiv_eq hd (by exact_mod_cast hlo') (by exact_mod_cast hhi') ?_
  rintro (h | h)
  · have h' : (2 * (m * den) : ℚ) = 2 * num + den := by exact_mod_cast h
    refine htie (.inl ?_)
    rw [hnum] at h'
    have : (x - (m - 1 / 2)) * den = 0 := by linarith
    rcases mul_eq_zero.mp this with h0 | h0 <;> linarith
  · have h' : (2 * num : ℚ) = 2 * (m * den) + den := by exact_mod_cast h
    refine htie (.inr ?_)
    rw [hnum] at h'
    have : (x - (m + 1 / 2)) * den = 0 := by linarith
    rcases mul_eq_zero.mp this with h0 | h0 <;> linarith

/-! ### Scaling -/

theorem scaleDown_pos {base den : Nat} (num : Nat) (hb : 0 < base) (hd : 0 < den) (e : Int) :
    0 < (scaleDown base num den e).2 := by
  unfold scaleDown
  split
  · exact hd
  · exact Nat.mul_pos hd (Nat.pow_pos hb)

theorem scaleDown_eq {base : Nat} (hb : 0 < base) (num den : Nat) (e : Int) :
    ((scaleDown base num den e).1 / (scaleDown base num den e).2 : ℚ) = num / den / base ^ e := by
  have hb' : (base : ℚ) ≠ 0 := by exact_mod_cast hb.ne'
  unfold scaleDown
  split
  · next he =>
    have h : (base : ℚ) ^ e = ((base : ℚ) ^ (-e).toNat)⁻¹ := by
      rw [← zpow_natCast, ← zpow_neg]
      congr 1
      omega
    rw [h, div_inv_eq_mul]
    simp only [Nat.pow_eq, Nat.cast_mul, Nat.cast_pow]
    ring
  · next he =>
    have h : (base : ℚ) ^ e = (base : ℚ) ^ e.toNat := by
      rw [← zpow_natCast]
      congr 1
      omega
    rw [h]
    simp only [Nat.pow_eq, Nat.cast_mul, Nat.cast_pow]
    rw [div_div]

theorem scaleDown_two (num den : Nat) (e : Int) :
    ((scaleDown 2 num den e).1 / (scaleDown 2 num den e).2 : ℚ) = num / den / 2 ^ e := by
  simpa using scaleDown_eq Nat.two_pos num den e

/-! ### Rounding a fraction -/

theorem exponent_lt {a b : Int} (h : (2 : ℚ) ^ a < 2 ^ b) : a < b :=
  (zpow_lt_zpow_iff_right₀ (by norm_num)).mp h

/-- The binary logarithm as a statement on rational numbers. -/
theorem log2_zpow {n : Nat} (hn : 0 < n) :
    (2 : ℚ) ^ (n.log2 : Int) ≤ n ∧ (n : ℚ) < 2 ^ ((n.log2 : Int) + 1) := by
  have hlo := Nat.log2_self_le hn.ne'
  have hhi := Nat.lt_log2_self (n := n)
  rw [← Nat.cast_one (R := Int), ← Nat.cast_add, zpow_natCast, zpow_natCast]
  exact ⟨by exact_mod_cast hlo, by exact_mod_cast hhi⟩

theorem unitExponent_spec {num den : Nat} (hn : 0 < num) (hd : 0 < den) :
    (2 : ℚ) ^ (unitExponent num den + 52) ≤ num / den ∧
      (num / den : ℚ) < 2 ^ (unitExponent num den + 53) := by
  have hd' : (0 : ℚ) < den := by exact_mod_cast hd
  obtain ⟨hnlo, hnhi⟩ := log2_zpow hn
  obtain ⟨hdlo, hdhi⟩ := log2_zpow hd
  unfold unitExponent
  dsimp only
  set low : Int := (num.log2 : Int) - den.log2 - 53 with hlow
  -- The logarithms leave two candidates, of which `low` is the lower one.
  have hlo : (2 : ℚ) ^ (low + 52) ≤ num / den := by
    rw [le_div_iff₀ hd']
    calc (2 : ℚ) ^ (low + 52) * den ≤ 2 ^ (low + 52) * 2 ^ ((den.log2 : Int) + 1) := by gcongr
      _ = 2 ^ (num.log2 : Int) := by
        rw [← zpow_add₀ (by norm_num)]; congr 1; omega
      _ ≤ num := hnlo
  have hhi : (num / den : ℚ) < 2 ^ (low + 54) := by
    rw [div_lt_iff₀ hd']
    calc (num : ℚ) < 2 ^ ((num.log2 : Int) + 1) := hnhi
      _ = 2 ^ (low + 54) * 2 ^ (den.log2 : Int) := by
        rw [← zpow_add₀ (by norm_num)]; congr 1; omega
      _ ≤ 2 ^ (low + 54) * den := by gcongr
  have hpos : (0 : ℚ) < (scaleDown 2 num den low).2 := by
    exact_mod_cast scaleDown_pos num Nat.two_pos hd low
  -- The comparison that is made in whole numbers tells them apart.
  have hiff : (scaleDown 2 num den low).1 < (scaleDown 2 num den low).2 * Nat.pow 2 53 ↔
      (num / den : ℚ) < 2 ^ (low + 53) := by
    have hcast : ((scaleDown 2 num den low).2 * Nat.pow 2 53 : ℕ) =
        ((scaleDown 2 num den low).2 * 2 ^ (53 : ℤ) : ℚ) := by
      rw [Nat.pow_eq, Nat.cast_mul, Nat.cast_pow, ← zpow_natCast, Nat.cast_ofNat, Nat.cast_ofNat]
    rw [← Nat.cast_lt (α := ℚ), hcast, ← div_lt_iff₀' hpos, scaleDown_two num den,
      div_lt_iff₀ (by positivity), ← zpow_add₀ (by norm_num : (2 : ℚ) ≠ 0), add_comm]
  split
  · next h => exact ⟨hlo, hiff.mp h⟩
  · next h =>
    rw [hiff, not_lt] at h
    refine ⟨?_, ?_⟩
    · rwa [show low + 1 + 52 = low + 53 by omega]
    · rwa [show low + 1 + 53 = low + 54 by omega]

theorem unitExponent_eq {num den : Nat} {e : Int} (hn : 0 < num) (hd : 0 < den)
    (hlo : (2 : ℚ) ^ (e + 52) ≤ num / den) (hhi : (num / den : ℚ) < 2 ^ (e + 53)) :
    unitExponent num den = e := by
  obtain ⟨hulo, huhi⟩ := unitExponent_spec hn hd
  have h1 := exponent_lt (hulo.trans_lt hhi)
  have h2 := exponent_lt (hlo.trans_lt huhi)
  omega

theorem ofFraction_of_pos (negative : Bool) {num den : Nat} (hn : 0 < num) {e : Int}
    (he : max (unitExponent num den) minExponent = e) :
    ofFraction negative num den =
      ofRounded negative (roundDiv (scaleDown 2 num den e).1 (scaleDown 2 num den e).2) e := by
  rw [ofFraction, if_neg hn.ne', ← he]

/-! ### The form of what comes out -/

theorem fits_zero : Fits 0 minExponent :=
  ⟨by decide, le_refl _, by decide, .inr rfl⟩

theorem canonical_bounded {negative : Bool} {m : Nat} {e : Int} (hm : m < 2 ^ 53)
    (he : minExponent ≤ e) (hnormal : 2 ^ 52 ≤ m ∨ e = minExponent) :
    Canonical (bounded negative m e) := by
  unfold bounded
  split
  · trivial
  · next hmax => exact ⟨hm, he, not_lt.mp hmax, hnormal⟩

/-- Rounding a fraction gives a number in its usual form. -/
theorem canonical_ofFraction (negative : Bool) (num : Nat) {den : Nat} (hd : 0 < den) :
    Canonical (ofFraction negative num den) := by
  rcases Nat.eq_zero_or_pos num with rfl | hn
  · exact fits_zero
  obtain ⟨hlo, hhi⟩ := unitExponent_spec hn hd
  rw [ofFraction_of_pos negative hn rfl]
  set u := unitExponent num den
  set e := max u minExponent with he
  have hscaled := scaleDown_two num den e
  have hpos := scaleDown_pos num Nat.two_pos hd e
  generalize scaleDown 2 num den e = x at hscaled hpos
  have hpos' : (0 : ℚ) < x.2 := by exact_mod_cast hpos
  rw [div_eq_div_iff hpos'.ne' (by positivity)] at hscaled
  -- At the greater of the two exponents there are no more than 53 digits before the point, and at
  -- the unit exponent there are no fewer.
  have hm : roundDiv x.1 x.2 ≤ 2 ^ 53 := by
    refine roundDiv_le hpos ?_
    have h : (num / den : ℚ) ≤ 2 ^ (53 : ℤ) * 2 ^ e := by
      rw [← zpow_add₀ (by norm_num)]
      refine hhi.le.trans (zpow_le_zpow_right₀ (by norm_num) ?_)
      omega
    have h' : (x.1 : ℚ) * 2 ^ e ≤ 2 ^ (53 : ℤ) * x.2 * 2 ^ e := by
      rw [hscaled]; nlinarith
    have := le_of_mul_le_mul_right h' (by positivity)
    exact_mod_cast this
  have hnormal : e = u → 2 ^ 52 ≤ roundDiv x.1 x.2 := by
    intro heu
    refine le_roundDiv hpos ?_
    have h : (2 : ℚ) ^ (52 : ℤ) * 2 ^ e ≤ num / den := by
      rw [← zpow_add₀ (by norm_num), heu, add_comm]
      exact hlo
    have h' : (2 : ℚ) ^ (52 : ℤ) * x.2 * 2 ^ e ≤ x.1 * 2 ^ e := by
      rw [hscaled]; nlinarith
    have := le_of_mul_le_mul_right h' (by positivity)
    exact_mod_cast this
  have hmin : minExponent ≤ e := le_max_right u minExponent
  unfold ofRounded
  split
  · exact canonical_bounded (by decide) (by omega) (.inl (by decide))
  · next hne =>
    refine canonical_bounded (lt_of_le_of_ne hm hne) hmin ?_
    rcases max_choice u minExponent with h | h
    · exact .inl (hnormal (he.trans h))
    · exact .inr (he.trans h)

/-! ### The number that a fraction is rounded to -/

theorem ofRounded_of_fits (negative : Bool) {m : Nat} {e : Int} (h : Fits m e) :
    ofRounded negative m e = .finite negative m e := by
  have hm : m ≠ Nat.pow 2 53 := Nat.ne_of_lt h.lt
  rw [ofRounded, if_neg hm, bounded, if_neg (not_lt.mpr h.most)]

theorem roundDiv_of_near {num den m : Nat} {e : Int} (hd : 0 < den)
    (hlo : (m - 1 / 2) * 2 ^ e ≤ (num / den : ℚ)) (h : Near m e (num / den)) :
    roundDiv (scaleDown 2 num den e).1 (scaleDown 2 num den e).2 = m := by
  have he : (0 : ℚ) < 2 ^ e := by positivity
  refine roundDiv_eq_of_rat (scaleDown_pos num Nat.two_pos hd e) (scaleDown_two num den e).symm
    ?_ ?_ ?_
  · rwa [le_div_iff₀ he]
  · rw [div_le_iff₀ he]
    exact h.bounds.2
  · rintro (htie | htie)
    · rw [div_eq_iff he.ne'] at htie
      refine h.even (.inl ?_)
      have hbelow := h.bounds.1
      unfold lower at hbelow ⊢
      split at hbelow
      · -- next to a power of two the halfway point is not reached
        rw [htie] at hbelow
        nlinarith
      · next hp => rw [if_neg hp, htie]
    · rw [div_eq_iff he.ne'] at htie
      exact h.even (.inr htie)

theorem half_le_lower (m : Nat) (e : Int) : (m - 1 / 2 : ℚ) * 2 ^ e ≤ lower m e := by
  have he : (0 : ℚ) < 2 ^ e := by positivity
  unfold lower
  split
  · nlinarith
  · exact le_refl _

/-- A fraction just below a power of two is rounded to it: rounding takes place one exponent lower,
and goes up. -/
theorem ofFraction_below_power (negative : Bool) {num den : Nat} {e : Int} (hd : 0 < den)
    (hn : 0 < num) (hleast : minExponent < e) (hmost : e ≤ maxExponent)
    (hquarter : ((2 : ℚ) ^ (52 : ℤ) - 1 / 4) * 2 ^ e ≤ num / den)
    (hsmall : (num / den : ℚ) < 2 ^ (e + 52)) :
    ofFraction negative num den = .finite negative (2 ^ 52) e := by
  have hhalf : (2 : ℚ) ^ e = 2 * 2 ^ (e - 1) := by
    rw [← zpow_one_add₀ (by norm_num)]; congr 1; omega
  have he1 : (0 : ℚ) < 2 ^ (e - 1) := by positivity
  have hunit : unitExponent num den = e - 1 := by
    refine unitExponent_eq hn hd (le_trans ?_ hquarter) ?_
    · rw [show e - 1 + 52 = 52 + (e - 1) by omega, zpow_add₀ (by norm_num), hhalf]
      have h52 : (1 : ℚ) ≤ 2 ^ (52 : ℤ) := by norm_num
      nlinarith
    · rwa [show e - 1 + 53 = e + 52 by omega]
  have hmax : max (unitExponent num den) minExponent = e - 1 := by
    rw [hunit]; exact max_eq_left (by omega)
  have hround : roundDiv (scaleDown 2 num den (e - 1)).1 (scaleDown 2 num den (e - 1)).2 =
      2 ^ 53 := by
    have h53 : (2 : ℚ) ^ (53 : ℤ) = 2 * 2 ^ (52 : ℤ) := by norm_num
    have hcast : ((2 ^ 53 : ℕ) : ℚ) = 2 ^ (53 : ℤ) := by norm_num
    refine roundDiv_eq_of_rat (scaleDown_pos num Nat.two_pos hd (e - 1))
      (scaleDown_two num den (e - 1)).symm ?_ ?_ ?_
    · rw [le_div_iff₀ he1, hcast, h53]
      rw [hhalf] at hquarter
      nlinarith
    · rw [div_le_iff₀ he1, hcast, h53]
      rw [add_comm, zpow_add₀ (by norm_num), hhalf] at hsmall
      nlinarith
    · exact fun _ => by decide
  have hcarry : ofRounded negative (2 ^ 53) (e - 1) = bounded negative (2 ^ 52) e := by
    rw [ofRounded, show e - 1 + 1 = e by omega]
    exact if_pos rfl
  rw [ofFraction_of_pos negative hn hmax, hround, hcarry, bounded, if_neg (not_lt.mpr hmost)]

/-- A fraction between the halfway points around a positive number is rounded to it. -/
theorem ofFraction_of_near (negative : Bool) {num den m : Nat} {e : Int} (hd : 0 < den)
    (hm : 0 < m) (hfits : Fits m e) (h : Near m e (num / den)) :
    ofFraction negative num den = .finite negative m e := by
  have he : (0 : ℚ) < 2 ^ e := by positivity
  have hd' : (0 : ℚ) < den := by exact_mod_cast hd
  have hm' : (1 : ℚ) ≤ m := by exact_mod_cast hm
  have hlt : (m : ℚ) + 1 ≤ 2 ^ (53 : ℤ) := by exact_mod_cast hfits.lt
  have hlo := (half_le_lower m e).trans h.bounds.1
  have hhi : (num / den : ℚ) < 2 ^ (e + 53) := by
    calc (num / den : ℚ) ≤ (m + 1 / 2) * 2 ^ e := h.bounds.2
      _ < 2 ^ (53 : ℤ) * 2 ^ e := by nlinarith
      _ = 2 ^ (e + 53) := by rw [← zpow_add₀ (by norm_num), add_comm]
  have hn : 0 < num := by
    have hx : (0 : ℚ) < num / den := lt_of_lt_of_le (by nlinarith) hlo
    have := mul_pos hx hd'
    rw [div_mul_cancel₀ _ hd'.ne'] at this
    exact_mod_cast this
  have hsame : max (unitExponent num den) minExponent = e →
      ofFraction negative num den = .finite negative m e := by
    intro hmax
    rw [ofFraction_of_pos negative hn hmax, roundDiv_of_near hd hlo h,
      ofRounded_of_fits negative hfits]
  obtain ⟨hulo, huhi⟩ := unitExponent_spec hn hd
  rcases le_or_gt ((2 : ℚ) ^ (e + 52)) (num / den) with hbig | hsmall
  · rw [unitExponent_eq hn hd hbig hhi] at hsame
    exact hsame (max_eq_left hfits.least)
  have hue := exponent_lt (hulo.trans_lt hsmall)
  rcases eq_or_lt_of_le hfits.least with hmin | hmin
  · exact hsame (by omega)
  · -- The number is the smallest one of its exponent, and the fraction is below it.
    have hnormal : 2 ^ 52 ≤ m := hfits.normal.resolve_right (by omega)
    have hpow : m = 2 ^ 52 := by
      by_contra hne
      have h1 : 2 ^ 52 + 1 ≤ m := by omega
      have h1' : (2 : ℚ) ^ (52 : ℤ) + 1 ≤ m := by exact_mod_cast h1
      have h2 : (num / den : ℚ) < 2 ^ (52 : ℤ) * 2 ^ e := by
        rwa [← zpow_add₀ (by norm_num), add_comm]
      nlinarith
    have hquarter : ((2 : ℚ) ^ (52 : ℤ) - 1 / 4) * 2 ^ e ≤ num / den := by
      have hbelow := h.bounds.1
      rw [lower, if_pos ⟨hpow, hmin⟩, hpow] at hbelow
      exact_mod_cast hbelow
    rw [hpow]
    exact ofFraction_below_power negative hd hn hmin hfits.most hquarter hsmall

end Coffer.Binary64
