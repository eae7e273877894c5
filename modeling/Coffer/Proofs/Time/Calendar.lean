import Coffer.Time.Calendar

/-!
The calendar and its count of days. Years are taken to start in March and lie in eras of 400 years;
`daysBefore` counts the days of an era before a year of it. Every day has a date in the calendar
(`isValid_ofNumber`), and counting the days up to that date gives the day back
(`number_ofNumber`).
-/

namespace Coffer.Date

/-! ### Years of an era -/

/-- The days of an era before a year of it. -/
def daysBefore (y : Nat) : Nat :=
  365 * y + y / 4 - y / 100

/-- The days of an era up to the end of a year of it. Only the last year has a leap day in a year
divisible by a hundred. -/
def daysUpTo (y : Nat) : Nat :=
  if y = 399 then 146097 else daysBefore (y + 1)

def yearOfDay (n : Nat) : Nat :=
  (n - n / 1460 + n / 36524 - n / 146096) / 365

theorem yearOfDay_succ_le (n : Nat) : yearOfDay n ≤ yearOfDay (n + 1) := by
  unfold yearOfDay
  apply Nat.div_le_div_right
  have h1 : (n + 1) / 1460 ≤ n / 1460 + 1 := by omega
  have h2 : n / 146096 = n / 36524 / 4 := by rw [Nat.div_div_eq_div_mul]
  have h3 : (n + 1) / 146096 = (n + 1) / 36524 / 4 := by rw [Nat.div_div_eq_div_mul]
  have h4 : n / 36524 ≤ (n + 1) / 36524 := by omega
  have h5 : (n + 1) / 36524 ≤ n / 36524 + 1 := by omega
  have h6 : n / 1460 ≤ n := Nat.div_le_self n 1460
  rw [h2, h3]
  generalize n / 36524 = a at *
  generalize (n + 1) / 36524 = b at *
  generalize n / 1460 = c at *
  generalize (n + 1) / 1460 = d at *
  clear h2 h3
  omega

theorem yearOfDay_mono {a b : Nat} (h : a ≤ b) : yearOfDay a ≤ yearOfDay b := by
  obtain ⟨k, rfl⟩ := Nat.exists_eq_add_of_le h
  clear h
  induction k with
  | zero => exact Nat.le_refl _
  | succ k ih => exact Nat.le_trans ih (yearOfDay_succ_le (a + k))

theorem yearOfDay_ends : ∀ y < 400,
    yearOfDay (daysBefore y) = y ∧ yearOfDay (daysUpTo y - 1) = y := by
  decide +kernel

theorem yearOfDay_eq {n y : Nat} (hy : y < 400) (hlo : daysBefore y ≤ n) (hhi : n < daysUpTo y) :
    yearOfDay n = y := by
  obtain ⟨hfirst, hlast⟩ := yearOfDay_ends y hy
  have h1 := yearOfDay_mono hlo
  have h2 := yearOfDay_mono (show n ≤ daysUpTo y - 1 by omega)
  omega

theorem exists_year {n : Nat} (hn : n < 146097) :
    ∃ y < 400, daysBefore y ≤ n ∧ n < daysUpTo y := by
  have h : ∀ k ≤ 399, n < daysUpTo k → ∃ y < 400, daysBefore y ≤ n ∧ n < daysUpTo y := by
    intro k
    induction k with
    | zero => exact fun _ hlt => ⟨0, by omega, Nat.zero_le _, hlt⟩
    | succ k ih =>
      intro hk hlt
      by_cases hbefore : n < daysUpTo k
      · exact ih (by omega) hbefore
      · rw [daysUpTo, if_neg (by omega), Nat.not_lt] at hbefore
        exact ⟨k + 1, by omega, hbefore, hlt⟩
  exact h 399 (Nat.le_refl _) (by rw [daysUpTo, if_pos rfl]; exact hn)

theorem daysUpTo_of_lt : ∀ y < 400, daysUpTo y = daysBefore y +
    if (y + 1) % 4 = 0 ∧ ((y + 1) % 100 ≠ 0 ∨ (y + 1) % 400 = 0) then 366 else 365 := by
  decide +kernel

theorem daysUpTo_eq {y : Nat} (hy : y < 400) (era : Int) :
    daysUpTo y = daysBefore y + if isLeap (era * 400 + y + 1) then 366 else 365 := by
  have hleap : isLeap (era * 400 + y + 1) = decide ((y + 1) % 4 = 0 ∧
      ((y + 1) % 100 ≠ 0 ∨ (y + 1) % 400 = 0)) := by
    rw [isLeap, Bool.eq_iff_iff]
    simp only [Bool.and_eq_true, Bool.or_eq_true, decide_eq_true_eq]
    omega
  simp only [daysUpTo_of_lt y hy, hleap, decide_eq_true_eq]

/-! ### Dates -/

/-- The parts of a day's number: its era, the year of the era and the day of the year. -/
structure Parts (n era : Int) (y d : Nat) : Prop where
  year : y < 400
  number : n + 719468 = era * 146097 + (daysBefore y + d : Nat)
  bound : daysBefore y + d < daysUpTo y

theorem exists_parts (n : Int) : ∃ era y d, Parts n era y d := by
  have hmod : (n + 719468) % 146097 = ((n + 719468) % 146097).toNat := by omega
  obtain ⟨y, hy, hlo, hhi⟩ := exists_year (n := ((n + 719468) % 146097).toNat) (by omega)
  refine ⟨(n + 719468) / 146097, y, ((n + 719468) % 146097).toNat - daysBefore y, hy, ?_, ?_⟩
  · rw [Nat.add_sub_cancel' hlo]
    omega
  · rwa [Nat.add_sub_cancel' hlo]

variable {n era : Int} {y d : Nat}

/-- A day of the year is below 366, and the last one of these only comes in leap years. -/
theorem Parts.day (h : Parts n era y d) :
    d < 366 ∧ (d = 365 → isLeap (era * 400 + y + 1) = true) := by
  have hbound := h.bound
  rw [daysUpTo_eq h.year era] at hbound
  split at hbound
  · next hleap => exact ⟨by omega, fun _ => hleap⟩
  · exact ⟨by omega, by omega⟩

def monthOfDay (d : Nat) : Nat :=
  (5 * d + 2) / 153

/-- The date of a day of the year, given the era and the year. -/
def ofParts (era : Int) (y d : Nat) : Date :=
  let m := monthOfDay d
  ⟨if m < 10 then era * 400 + y else era * 400 + y + 1, if m < 10 then m + 3 else m - 9,
    d - (153 * m + 2) / 5 + 1⟩

theorem monthOfDay_lt (hd : d < 366) : monthOfDay d < 12 := by
  unfold monthOfDay
  omega

theorem monthStart_le (d : Nat) : (153 * monthOfDay d + 2) / 5 ≤ d := by
  unfold monthOfDay
  omega

theorem Parts.lt_era (h : Parts n era y d) : daysBefore y + d < 146097 := by
  have hbound := h.bound
  have hyear := h.year
  unfold daysUpTo daysBefore at hbound
  unfold daysBefore
  split at hbound <;> omega

theorem Parts.yearOfDay (h : Parts n era y d) :
    ((daysBefore y + d : Nat) - ((daysBefore y + d : Nat) : Int) / 1460 +
      (daysBefore y + d : Nat) / 36524 - (daysBefore y + d : Nat) / 146096) / 365 = (y : Int) := by
  have hyear := yearOfDay_eq h.year (Nat.le_add_right _ d) h.bound
  have hlt := h.lt_era
  generalize daysBefore y + d = k at hyear hlt
  rw [← hyear, Date.yearOfDay]
  clear hyear h
  omega

/-- The date of a day, in terms of its parts. -/
theorem ofNumber_eq (h : Parts n era y d) : ofNumber n = ofParts era y d := by
  have hnum := h.number
  have hlt := h.lt_era
  have hdiv : (n + 719468) / 146097 = era := by omega
  have hmod : (n + 719468) % 146097 = (daysBefore y + d : Nat) := by omega
  have hdoy : ((daysBefore y + d : Nat) : Int) - (365 * y + (y : Int) / 4 - (y : Int) / 100) =
      d := by
    clear hnum hlt hdiv hmod
    unfold daysBefore
    omega
  have hmonth : (5 * (d : Int) + 2) / 153 = monthOfDay d := by
    unfold monthOfDay
    omega
  have hm := monthOfDay_lt h.day.1
  have hstart := monthStart_le d
  rw [ofNumber]
  rw [hdiv, hmod, h.yearOfDay, hdoy, hmonth, ofParts]
  clear hdiv hmod hdoy hmonth hnum hlt h
  generalize monthOfDay d = m at hm hstart
  -- The months of a year run from March on, so the last two belong to the next calendar year.
  by_cases h10 : m < 10
  · have h10' : (m : Int) < 10 := by omega
    have h2 : ¬ (m : Int) + 3 ≤ 2 := by omega
    simp only [h10, h10', h2, if_true, if_false, Date.mk.injEq, true_and]
    exact ⟨by omega, by omega⟩
  · have h10' : ¬ (m : Int) < 10 := by omega
    have h2 : (m : Int) - 9 ≤ 2 := by omega
    simp only [h10, h10', h2, if_true, if_false, Date.mk.injEq, true_and]
    exact ⟨by omega, by omega⟩

theorem number_ofParts (hy : y < 400) (hd : d < 366) :
    (ofParts era y d).number = era * 146097 + (daysBefore y + d : Nat) - 719468 := by
  have hm := monthOfDay_lt hd
  have hstart := monthStart_le d
  have hdays : ((daysBefore y : Nat) : Int) = y * 365 + (y : Int) / 4 - (y : Int) / 100 := by
    unfold daysBefore
    omega
  have hera : (era * 400 + y) / 400 = era := by omega
  have hyoe : (era * 400 + y) % 400 = (y : Int) := by omega
  rw [ofParts, number]
  dsimp only
  clear hy hd
  generalize monthOfDay d = m at hm hstart
  by_cases h10 : m < 10
  · have h2 : ¬ m + 3 ≤ 2 := by omega
    have h3 : m + 3 > 2 := by omega
    have hstart' : (153 * (((m + 3 : Nat) : Int) - 3) + 2) / 5 = ((153 * m + 2) / 5 : Nat) := by
      omega
    simp only [h10, h2, h3, if_true, if_false]
    rw [hera, hyoe, hstart', Int.natCast_add (daysBefore y), hdays]
    clear hdays hstart' hera hyoe
    omega
  · have h2 : m - 9 ≤ 2 := by omega
    have h3 : ¬ m - 9 > 2 := by omega
    have hprev : era * 400 + (y : Int) + 1 - 1 = era * 400 + y := by omega
    have hstart' : (153 * (((m - 9 : Nat) : Int) + 9) + 2) / 5 = ((153 * m + 2) / 5 : Nat) := by
      omega
    simp only [h10, h2, h3, if_true, if_false]
    rw [hprev, hera, hyoe, hstart', Int.natCast_add (daysBefore y), hdays]
    clear hdays hstart' hera hyoe
    omega

/-- Counting the days up to the date of a day gives the day. -/
theorem number_ofNumber (n : Int) : (ofNumber n).number = n := by
  obtain ⟨era, y, d, h⟩ := exists_parts n
  rw [ofNumber_eq h, number_ofParts h.year h.day.1, ← h.number]
  omega

theorem day_le_month : ∀ d < 366, d - (153 * monthOfDay d + 2) / 5 + 1 ≤
    if monthOfDay d = 11 then (if d = 365 then 29 else 28)
    else if monthOfDay d = 1 ∨ monthOfDay d = 3 ∨ monthOfDay d = 6 ∨ monthOfDay d = 8 then 30
    else 31 := by
  decide +kernel

theorem day_ofParts_le (hd : d < 366) (hleap : d = 365 → isLeap (era * 400 + y + 1) = true) :
    (ofParts era y d).day ≤ daysIn (ofParts era y d).year (ofParts era y d).month := by
  have hday := day_le_month d hd
  have hm := monthOfDay_lt hd
  rw [ofParts, daysIn]
  dsimp only
  generalize monthOfDay d = m at hday hm
  -- Counted from March, February is the last month, and only its length depends on the year.
  by_cases hfeb : m = 11
  · subst hfeb
    rw [if_pos rfl] at hday
    rw [if_neg (show ¬ 11 < 10 by decide), if_neg (show ¬ 11 < 10 by decide), if_pos rfl]
    by_cases hlast : d = 365
    · rw [if_pos (hleap hlast)]
      omega
    · rw [if_neg hlast] at hday
      split <;> omega
  · rw [if_neg hfeb] at hday
    rw [if_neg (by split <;> omega)]
    by_cases hshort : m = 1 ∨ m = 3 ∨ m = 6 ∨ m = 8
    · rw [if_pos hshort] at hday
      rw [if_pos (by split <;> omega)]
      exact hday
    · rw [if_neg hshort] at hday
      rw [if_neg (by split <;> omega)]
      exact hday

theorem month_ofParts (era : Int) (y : Nat) (hd : d < 366) :
    1 ≤ (ofParts era y d).month ∧ (ofParts era y d).month ≤ 12 := by
  have hm := monthOfDay_lt hd
  rw [ofParts]
  dsimp only
  split <;> omega

/-- The year of a date changes with January, which starts 306 days after March. -/
theorem year_ofParts (era : Int) (y d : Nat) :
    (ofParts era y d).year = if d < 306 then era * 400 + y else era * 400 + y + 1 := by
  have h10 : monthOfDay d < 10 ↔ d < 306 := by
    unfold monthOfDay
    omega
  simp only [ofParts, h10]

/-- The date of a day exists in the calendar, as long as its year has four digits. -/
theorem isValid_ofNumber {n : Int} (hlo : number ⟨1, 1, 1⟩ ≤ n) (hhi : n < number ⟨10000, 1, 1⟩) :
    (ofNumber n).isValid = true := by
  obtain ⟨era, y, d, h⟩ := exists_parts n
  have hday := day_ofParts_le h.day.1 h.day.2
  have hmonth := month_ofParts era y h.day.1
  have hyear : 1 ≤ (ofParts era y d).year ∧ (ofParts era y d).year ≤ 9999 := by
    have hlo' : (-719162 : Int) ≤ n := hlo
    have hhi' : n < (2932897 : Int) := hhi
    have hnum := h.number
    have hy := h.year
    have hlt := h.lt_era
    have hfirst : y = 0 → daysBefore y = 0 := by
      rintro rfl
      rfl
    have hlast : y = 399 → daysBefore y = 145731 := by
      rintro rfl
      rfl
    rw [year_ofParts]
    split <;> omega
  rw [ofNumber_eq h, isValid]
  simp only [Bool.and_eq_true, decide_eq_true_eq]
  exact ⟨⟨⟨⟨hyear, hmonth.1⟩, hmonth.2⟩, Nat.le_add_left 1 _⟩, hday⟩

theorem number_bounds {d : Date} (h : d.isValid = true) :
    number ⟨1, 1, 1⟩ ≤ d.number ∧ d.number < number ⟨10000, 1, 1⟩ := by
  simp only [isValid, Bool.and_eq_true, decide_eq_true_eq] at h
  obtain ⟨⟨⟨⟨⟨hyear, hyear'⟩, hmonth⟩, hmonth'⟩, hday⟩, hday'⟩ := h
  have hday31 : d.day ≤ 31 := by
    unfold daysIn at hday'
    split at hday' <;> split at hday' <;> omega
  have hfirst : number ⟨1, 1, 1⟩ = -719162 := rfl
  have hlast : number ⟨10000, 1, 1⟩ = 2932897 := rfl
  clear hday'
  rw [hfirst, hlast, number]
  -- January and February are counted with the year before.
  by_cases hjan : d.month ≤ 2
  · rw [if_pos hjan, if_neg (by omega)]
    have hera : (d.year - 1) / 400 * 400 + (d.year - 1) % 400 = d.year - 1 := by omega
    have hyoe : 0 ≤ (d.year - 1) % 400 ∧ (d.year - 1) % 400 < 400 := by omega
    have hdoy : 306 ≤ (153 * ((d.month : Int) + 9) + 2) / 5 ∧
        (153 * ((d.month : Int) + 9) + 2) / 5 ≤ 337 := by omega
    generalize (d.year - 1) % 400 = yoe at hera hyoe
    generalize (d.year - 1) / 400 = era at hera
    generalize (153 * ((d.month : Int) + 9) + 2) / 5 = doy at hdoy
    omega
  · rw [if_neg hjan, if_pos (by omega)]
    have hera : d.year / 400 * 400 + d.year % 400 = d.year := by omega
    have hyoe : 0 ≤ d.year % 400 ∧ d.year % 400 < 400 := by omega
    have hdoy : 0 ≤ (153 * ((d.month : Int) - 3) + 2) / 5 ∧
        (153 * ((d.month : Int) - 3) + 2) / 5 ≤ 275 := by omega
    generalize d.year % 400 = yoe at hera hyoe
    generalize d.year / 400 = era at hera
    generalize (153 * ((d.month : Int) - 3) + 2) / 5 = doy at hdoy
    omega

end Coffer.Date
