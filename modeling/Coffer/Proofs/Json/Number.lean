import Coffer.Json.Printer
import Coffer.Json.Token
import Coffer.Proofs.Cut
import Coffer.Proofs.Number.Shortest

/-!
Numbers read back. Whatever text is written for an integer or a floating-point number, the reader
takes exactly that text and comes to the number it was written for, as long as no character follows
that could belong to a number too.
-/

namespace Coffer.Json

/-! ### Rows of digits -/

def AllDigits (cs : List Char) : Prop :=
  ∀ c ∈ cs, isDigit c = true

/-- Whether a text starts with nothing that could continue a number. -/
def Stops (rest : List Char) : Prop :=
  ∀ c, rest.head? = some c → isDigit c = false ∧ c ≠ '.' ∧ c ≠ 'e' ∧ c ≠ 'E'

theorem isDigit_eq (c : Char) : isDigit c = c.isDigit := rfl

theorem natOfDigits_eq (cs : List Char) : natOfDigits cs = Nat.ofDigitChars 10 cs 0 := by
  unfold natOfDigits
  rw [Nat.ofDigitChars_eq_foldl]
  congr 1
  funext n c
  rw [Nat.mul_comm]
  rfl

theorem toList_toString (n : Nat) : (toString n).toList = Nat.toDigits 10 n := by
  rw [Nat.toString_eq_repr, Nat.toList_repr]

theorem allDigits_toDigits (n : Nat) : AllDigits (Nat.toDigits 10 n) := by
  intro c hc
  rw [isDigit_eq]
  exact Nat.isDigit_of_mem_toDigits (by omega) (by omega) hc

theorem natOfDigits_toDigits (n : Nat) : natOfDigits (Nat.toDigits 10 n) = n := by
  rw [natOfDigits_eq, Nat.ofDigitChars_ten_toDigits]

theorem natOfDigits_zeros (k : Nat) (cs : List Char) :
    natOfDigits (List.replicate k '0' ++ cs) = natOfDigits cs := by
  rw [natOfDigits_eq, natOfDigits_eq, Nat.ofDigitChars_append, Nat.ofDigitChars_replicate_zero,
    Nat.mul_zero]

theorem natOfDigits_append_zeros (cs : List Char) (k : Nat) :
    natOfDigits (cs ++ List.replicate k '0') = 10 ^ k * natOfDigits cs := by
  rw [natOfDigits_eq, natOfDigits_eq, Nat.ofDigitChars_append, Nat.ofDigitChars_replicate_zero]

theorem allDigits_zeros (k : Nat) : AllDigits (List.replicate k '0') := by
  intro c hc
  rw [List.eq_of_mem_replicate hc]
  rfl

theorem AllDigits.append {a b : List Char} (ha : AllDigits a) (hb : AllDigits b) :
    AllDigits (a ++ b) := by
  intro c hc
  rcases List.mem_append.mp hc with h | h
  · exact ha c h
  · exact hb c h

theorem head_toDigits_ne {n : Nat} (hn : 0 < n) : (Nat.toDigits 10 n).head? ≠ some '0' := by
  induction n using Nat.strongRecOn with
  | ind n ih =>
    rw [Nat.toDigits_eq_if (by omega)]
    split
    · intro h
      have h0 : n.digitChar = '0' := Option.some.inj h
      rw [Nat.digitChar_eq_zero] at h0
      omega
    · next hge =>
      rw [List.head?_append_of_ne_nil _ Nat.toDigits_ne_nil]
      exact ih (n / 10) (by omega) (by omega)

/-! ### The parts of a number -/

/-- A lone zero, or digits that do not start with one, are taken as a whole part. -/
theorem whole?_append {ds rest : List Char} (hne : ds ≠ []) (hds : AllDigits ds)
    (hlead : ds = ['0'] ∨ ds.head? ≠ some '0')
    (hrest : ∀ c, rest.head? = some c → isDigit c = false) :
    whole? (ds ++ rest) = some (ds, rest) := by
  rcases hlead with rfl | hlead
  · rfl
  · have htake := Cut.takeWhile_append hds hrest
    have hdrop := Cut.dropWhile_append hds hrest
    cases ds with
    | nil => exact absurd rfl hne
    | cons c cs =>
      have hc : c ≠ '0' := fun h => hlead (by rw [h]; rfl)
      rw [List.cons_append] at htake hdrop ⊢
      unfold whole?
      split
      · next h => exact absurd (List.cons.inj h).1 hc
      · rw [htake, hdrop]
        rfl

theorem fraction?_append {ds rest : List Char} (hne : ds ≠ []) (hds : AllDigits ds)
    (hrest : ∀ c, rest.head? = some c → isDigit c = false) :
    fraction? ('.' :: (ds ++ rest)) = some (ds, rest) := by
  rw [fraction?, Cut.takeWhile_append hds hrest, Cut.dropWhile_append hds hrest, if_neg (by simpa using hne)]

theorem fraction?_eq_none {rest : List Char} (h : rest.head? ≠ some '.') :
    fraction? rest = none := by
  unfold fraction?
  split
  · exact absurd rfl h
  · rfl

theorem exponent?_eq_none {rest : List Char} (h : Stops rest) : exponent? rest = none := by
  cases rest with
  | nil => rfl
  | cons c cs =>
    obtain ⟨-, -, h1, h2⟩ := h c rfl
    unfold exponent?
    exact if_neg (not_or.mpr ⟨h1, h2⟩)

theorem allDigits_padDigits (width n : Nat) : AllDigits (Binary64.padDigits width n) := by
  rw [Binary64.padDigits, toList_toString]
  exact (allDigits_zeros _).append (allDigits_toDigits n)

theorem padDigits_ne_nil (width n : Nat) : Binary64.padDigits width n ≠ [] := by
  rw [Binary64.padDigits, toList_toString]
  exact List.append_ne_nil_of_right_ne_nil _ Nat.toDigits_ne_nil

theorem natOfDigits_padDigits (width n : Nat) : natOfDigits (Binary64.padDigits width n) = n := by
  rw [Binary64.padDigits, toList_toString, natOfDigits_zeros, natOfDigits_toDigits]

theorem exponent?_append (e : Int) {rest : List Char}
    (hrest : ∀ c, rest.head? = some c → isDigit c = false) :
    exponent? (Binary64.exponentText 'e' e ++ rest) = some (e, rest) := by
  have htake := Cut.takeWhile_append (allDigits_padDigits 2 e.natAbs) hrest
  have hdrop := Cut.dropWhile_append (allDigits_padDigits 2 e.natAbs) hrest
  have hne : (Binary64.padDigits 2 e.natAbs).isEmpty = false := by
    simpa using padDigits_ne_nil 2 e.natAbs
  rw [Binary64.exponentText]
  by_cases he : e < 0
  · have habs : -(e.natAbs : Int) = e := by omega
    rw [if_pos he]
    simp only [List.cons_append, exponent?, htake, hdrop, hne, natOfDigits_padDigits, true_or,
      if_true, Bool.false_eq_true, if_false, habs]
  · have habs : (e.natAbs : Int) = e := by omega
    rw [if_neg he]
    simp only [List.cons_append, exponent?, htake, hdrop, hne, natOfDigits_padDigits, true_or,
      if_true, Bool.false_eq_true, if_false, habs]

/-! ### Numbers without a sign -/

theorem Stops.not_digit {rest : List Char} (h : Stops rest) :
    ∀ c, rest.head? = some c → isDigit c = false :=
  fun c hc => (h c hc).1

theorem Stops.fraction? {rest : List Char} (h : Stops rest) : Json.fraction? rest = none :=
  fraction?_eq_none fun hdot => (h '.' hdot).2.1 rfl

/-- What a whole part is: a lone zero, or digits that do not start with one. -/
structure IsWhole (ds : List Char) : Prop where
  ne_nil : ds ≠ []
  digits : AllDigits ds
  lead : ds = ['0'] ∨ ds.head? ≠ some '0'

theorem isWhole_toDigits (n : Nat) : IsWhole (Nat.toDigits 10 n) := by
  refine ⟨Nat.toDigits_ne_nil, allDigits_toDigits n, ?_⟩
  rcases Nat.eq_zero_or_pos n with rfl | hn
  · exact .inl (Nat.toDigits_zero 10)
  · exact .inr (head_toDigits_ne hn)

theorem number?_int (negative : Bool) {n : Nat} {rest : List Char}
    (hsize : (Nat.toDigits 10 n).length ≤ maxIntDigits) (hrest : Stops rest) :
    number? negative (Nat.toDigits 10 n ++ rest) =
      some (.int (if negative then -(n : Int) else n), rest) := by
  have hw := isWhole_toDigits n
  simp only [number?, whole?_append hw.ne_nil hw.digits hw.lead hrest.not_digit, Option.bind_eq_bind,
    Option.bind_some, hrest.fraction?, Option.getD_none, exponent?_eq_none hrest,
    natOfDigits_toDigits, if_neg (Nat.not_lt.mpr hsize)]

theorem number?_point (negative : Bool) {whole part rest : List Char} (hw : IsWhole whole)
    (hne : part ≠ []) (hp : AllDigits part) (hrest : Stops rest) :
    number? negative (whole ++ '.' :: (part ++ rest)) =
      some (.float (.ofDecimal negative (natOfDigits (whole ++ part)) (-(part.length : Int))),
        rest) := by
  have hdot : ∀ c, ('.' :: (part ++ rest)).head? = some c → isDigit c = false := by
    rintro c hc
    cases hc
    rfl
  have hzero : (0 : Int) - part.length = -(part.length : Int) := by omega
  simp only [number?, whole?_append hw.ne_nil hw.digits hw.lead hdot, Option.bind_eq_bind,
    Option.bind_some, fraction?_append hne hp hrest.not_digit, Option.getD_some,
    exponent?_eq_none hrest]
  cases part with
  | nil => exact absurd rfl hne
  | cons c cs => simp only [Option.getD_none, hzero]

theorem number?_exponent (negative : Bool) {whole part rest : List Char} (e : Int)
    (hw : IsWhole whole) (hp : AllDigits part) (hrest : Stops rest) :
    number? negative (whole ++ ((if part = [] then [] else '.' :: part) ++
        (Binary64.exponentText 'e' e ++ rest))) =
      some (.float (.ofDecimal negative (natOfDigits (whole ++ part)) (e - part.length)), rest) := by
  have hmark : (Binary64.exponentText 'e' e ++ rest).head? = some 'e' := rfl
  have hdigit : ∀ c, (Binary64.exponentText 'e' e ++ rest).head? = some c →
      isDigit c = false := by
    intro c hc
    rw [hmark] at hc
    cases hc
    rfl
  -- Without digits there is no point either, and the letter follows the whole part.
  by_cases hnil : part = []
  · subst hnil
    have hnone : fraction? (Binary64.exponentText 'e' e ++ rest) = none :=
      fraction?_eq_none (by rw [hmark]; decide)
    rw [if_pos rfl, List.nil_append]
    simp only [number?, whole?_append hw.ne_nil hw.digits hw.lead hdigit, Option.bind_eq_bind,
      Option.bind_some, hnone, Option.getD_none, exponent?_append e hrest.not_digit,
      Option.getD_some]
  · have hdot : ∀ c, ('.' :: (part ++ (Binary64.exponentText 'e' e ++ rest))).head? = some c →
        isDigit c = false := by
      rintro c hc
      cases hc
      rfl
    rw [if_neg hnil, List.cons_append]
    simp only [number?, whole?_append hw.ne_nil hw.digits hw.lead hdot, Option.bind_eq_bind,
      Option.bind_some, fraction?_append hnil hp hdigit, Option.getD_some,
      exponent?_append e hrest.not_digit]

/-! ### Floating-point numbers -/

open Binary64 (Decimal)

theorem isWhole_take {n p : Nat} (hn : 0 < n) (hp : 0 < p) (k : Nat) :
    IsWhole ((Nat.toDigits 10 n).take p ++ List.replicate k '0') := by
  have hlead := head_toDigits_ne hn
  have hdigits := allDigits_toDigits n
  have hne := Nat.toDigits_ne_nil (n := n) (b := 10)
  obtain ⟨p, rfl⟩ := Nat.exists_eq_succ_of_ne_zero hp.ne'
  generalize Nat.toDigits 10 n = ds at hlead hdigits hne
  cases ds with
  | nil => exact absurd rfl hne
  | cons c cs =>
    refine ⟨by simp, ?_, .inr (by simpa using hlead)⟩
    exact AllDigits.append (fun x hx => hdigits x (List.mem_of_mem_take hx)) (allDigits_zeros k)

section Layouts

variable (negative : Bool) {n : Nat} {rest : List Char} (hrest : Stops rest)
include hrest

theorem number?_behind_zeros (k : Nat) :
    number? negative ('0' :: '.' :: (List.replicate k '0' ++ Nat.toDigits 10 n ++ rest)) =
      some (.float (.ofDecimal negative n (-(k + (Nat.toDigits 10 n).length : Int))), rest) := by
  have hwhole : IsWhole ['0'] := ⟨by simp, by simp [AllDigits, isDigit], .inl rfl⟩
  have hpart : AllDigits (List.replicate k '0' ++ Nat.toDigits 10 n) :=
    (allDigits_zeros k).append (allDigits_toDigits n)
  have hnum : natOfDigits (['0'] ++ (List.replicate k '0' ++ Nat.toDigits 10 n)) = n := by
    have hzeros := natOfDigits_zeros (k + 1) (Nat.toDigits 10 n)
    rw [List.replicate_succ, List.cons_append, natOfDigits_toDigits] at hzeros
    exact hzeros
  have hpoint := number?_point negative hwhole
    (List.append_ne_nil_of_right_ne_nil _ Nat.toDigits_ne_nil) hpart hrest
  rw [hnum, List.length_append, List.length_replicate, Nat.cast_add] at hpoint
  exact hpoint

theorem number?_before_zeros (hn : 0 < n) (k : Nat) :
    number? negative (Nat.toDigits 10 n ++ List.replicate k '0' ++ '.' :: '0' :: rest) =
      some (.float (.ofDecimal negative (10 ^ (k + 1) * n) (-1)), rest) := by
  have hlength := Nat.length_toDigits_pos (n := n) (b := 10)
  have hwhole := isWhole_take hn hlength k
  rw [List.take_length] at hwhole
  have hnum : natOfDigits (Nat.toDigits 10 n ++ List.replicate k '0' ++ ['0']) =
      10 ^ (k + 1) * n := by
    have hzeros := natOfDigits_append_zeros (Nat.toDigits 10 n) (k + 1)
    rw [List.replicate_succ', ← List.append_assoc, natOfDigits_toDigits] at hzeros
    exact hzeros
  have hpoint := number?_point negative hwhole (by simp : ['0'] ≠ [])
    (by simp [AllDigits, isDigit]) hrest
  rw [hnum] at hpoint
  exact hpoint

theorem number?_among (hn : 0 < n) {p : Nat} (hp : 0 < p)
    (hlt : p < (Nat.toDigits 10 n).length) :
    number? negative ((Nat.toDigits 10 n).take p ++ '.' :: ((Nat.toDigits 10 n).drop p ++ rest)) =
      some (.float (.ofDecimal negative n (p - (Nat.toDigits 10 n).length : Int)), rest) := by
  have hwhole := isWhole_take hn hp 0
  rw [List.replicate_zero, List.append_nil] at hwhole
  have hne : (Nat.toDigits 10 n).drop p ≠ [] := mt List.drop_eq_nil_iff.mp (Nat.not_le.mpr hlt)
  have hpart : AllDigits ((Nat.toDigits 10 n).drop p) :=
    fun c hc => allDigits_toDigits n c (List.mem_of_mem_drop hc)
  have hexponent : -(((Nat.toDigits 10 n).drop p).length : Int) =
      p - (Nat.toDigits 10 n).length := by
    rw [List.length_drop]
    omega
  have hpoint := number?_point negative hwhole hne hpart hrest
  rw [List.take_append_drop, natOfDigits_toDigits, hexponent] at hpoint
  exact hpoint

/-- One digit before the point, or before the exponent if there are no more. -/
theorem number?_scientific (hn : 0 < n) (e : Int) :
    number? negative ((Nat.toDigits 10 n).take 1 ++
        ((if (Nat.toDigits 10 n).length > 1 then '.' :: (Nat.toDigits 10 n).drop 1 else []) ++
          (Binary64.exponentText 'e' e ++ rest))) =
      some (.float (.ofDecimal negative n (e + 1 - (Nat.toDigits 10 n).length)), rest) := by
  have hlength := Nat.length_toDigits_pos (n := n) (b := 10)
  have hwhole := isWhole_take hn Nat.one_pos 0
  rw [List.replicate_zero, List.append_nil] at hwhole
  have hpart : AllDigits ((Nat.toDigits 10 n).drop 1) :=
    fun c hc => allDigits_toDigits n c (List.mem_of_mem_drop hc)
  have hlayout : (if (Nat.toDigits 10 n).length > 1 then '.' :: (Nat.toDigits 10 n).drop 1 else [])
      = if (Nat.toDigits 10 n).drop 1 = [] then [] else '.' :: (Nat.toDigits 10 n).drop 1 := by
    by_cases hone : (Nat.toDigits 10 n).length ≤ 1
    · rw [if_neg (Nat.not_lt.mpr hone), if_pos (List.drop_eq_nil_iff.mpr hone)]
    · rw [if_pos (Nat.not_le.mp hone), if_neg (mt List.drop_eq_nil_iff.mp hone)]
  have hexponent : e - (((Nat.toDigits 10 n).drop 1).length : Int) =
      e + 1 - (Nat.toDigits 10 n).length := by
    rw [List.length_drop]
    omega
  have hnumber := number?_exponent negative e hwhole hpart hrest
  rw [List.take_append_drop, natOfDigits_toDigits, hexponent] at hnumber
  rw [hlayout]
  exact hnumber

end Layouts

theorem number?_decimal (negative : Bool) {d : Decimal} (hd : 0 < d.digits) {rest : List Char}
    (hrest : Stops rest) : ∃ d' : Decimal, d'.value = d.value ∧
      number? negative (d.text ++ rest) =
        some (.float (.ofDecimal negative d'.digits d'.exponent), rest) := by
  have hlength := Nat.length_toDigits_pos (n := d.digits) (b := 10)
  rw [Decimal.text, toList_toString]
  dsimp only
  split
  next hpoint =>
    have hnumber := number?_behind_zeros negative (n := d.digits) hrest
      (-((Nat.toDigits 10 d.digits).length + d.exponent)).toNat
    rw [Int.toNat_of_nonneg (by omega)] at hnumber
    refine ⟨d, rfl, ?_⟩
    rw [List.cons_append, List.cons_append, hnumber]
    congr 4
    omega
  split
  next hpoint =>
    set p := ((Nat.toDigits 10 d.digits).length + d.exponent).toNat with hp
    by_cases hle : (Nat.toDigits 10 d.digits).length ≤ p
    · -- The digits that are written stand for a greater number than those of the decimal.
      have hnumber := number?_before_zeros negative hrest hd
        (p - (Nat.toDigits 10 d.digits).length)
      refine ⟨⟨10 ^ (p - (Nat.toDigits 10 d.digits).length + 1) * d.digits, -1⟩, ?_, ?_⟩
      · have hexponent : d.exponent = ((p - (Nat.toDigits 10 d.digits).length : ℕ) : Int) := by
          omega
        rw [Decimal.value, Decimal.value, hexponent]
        push_cast
        rw [zpow_natCast, pow_succ]
        norm_num
        ring
      · rw [List.take_of_length_le hle, List.drop_of_length_le hle]
        simpa using hnumber
    · rw [not_le] at hle
      have hnumber := number?_among negative hrest hd (by omega : 0 < p) hle
      have hpart : (Nat.toDigits 10 d.digits).drop p ≠ [] :=
        mt List.drop_eq_nil_iff.mp (Nat.not_le.mpr hle)
      refine ⟨d, rfl, ?_⟩
      rw [show p - (Nat.toDigits 10 d.digits).length = 0 by omega, List.replicate_zero,
        List.append_nil, if_neg (by simpa using hpart), List.append_assoc, List.cons_append, hnumber]
      congr 4
      omega
  next hpoint =>
    have hnumber := number?_scientific negative hrest hd
      ((Nat.toDigits 10 d.digits).length + d.exponent - 1)
    refine ⟨d, rfl, ?_⟩
    rw [List.append_assoc, List.append_assoc, hnumber]
    congr 4
    omega

end Coffer.Json
