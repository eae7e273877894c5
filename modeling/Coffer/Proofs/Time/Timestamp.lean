import Coffer.Proofs.Time.Calendar
import Coffer.Time.Timestamp
import Mathlib.Algebra.Group.Nat.Defs

/-!
The written form of a moment can be read back: `ofText?_text`. This holds for the moments that the
calendar can name, on clocks whose distance from universal time is below a day, and not a fraction
of a second (`IsValid`). Whatever the reader yields is such a moment (`isValid_of_ofText?`), so that
a moment that has been read can be written and read again.
-/

namespace Coffer.Timestamp

/-- A moment of the years 1 to 9999, on a clock whose distance from universal time is unknown, or
none, or between a second and a day. -/
structure IsValid (t : Timestamp) : Prop where
  first_le : firstMicros ≤ t.wall
  lt_last : t.wall < lastMicros
  offset : ∀ o, t.offset = some o → o = 0 ∨ 1000000 ≤ o.natAbs ∧ o.natAbs < 86400000000

theorem isValid_utc {micros : Int} (hfirst : firstMicros ≤ micros) (hlast : micros < lastMicros) :
    (utc micros).IsValid := by
  refine ⟨hfirst, hlast, ?_⟩
  rintro _ ⟨⟩
  exact .inl rfl

/-! ### Digits -/

theorem digit?_ofNat : ∀ k < 10, digit? (Char.ofNat (48 + k)) = some k := by
  decide

theorem digitChar_ne : ∀ k < 10, startsOffset (Char.ofNat (48 + k)) = false ∧
    Char.ofNat (48 + k) ≠ 'W' := by
  decide

theorem number?_append {ds : List Char} {vs : List Nat} (h : ds.mapM digit? = some vs)
    (rest : List Char) :
    number? ds.length (ds ++ rest) = some (vs.foldl (fun v d => v * 10 + d) 0, rest) := by
  simp only [number?, List.take_left, Nat.lt_irrefl, if_false, h, List.drop_left]
  rfl

theorem mapM_twoDigits (n : Nat) : (twoDigits n).mapM digit? = some [n / 10 % 10, n % 10] := by
  simp [twoDigits, digit?_ofNat (n / 10 % 10) (by omega), digit?_ofNat (n % 10) (by omega)]

theorem mapM_append {xs ys : List Char} {vs ws : List Nat} (hx : xs.mapM digit? = some vs)
    (hy : ys.mapM digit? = some ws) : (xs ++ ys).mapM digit? = some (vs ++ ws) := by
  rw [List.mapM_append, hx, hy]
  rfl

theorem number?_twoDigits {n : Nat} (hn : n < 100) (rest : List Char) :
    number? 2 (twoDigits n ++ rest) = some (n, rest) := by
  have h := number?_append (mapM_twoDigits n) rest
  have hvalue : [n / 10 % 10, n % 10].foldl (fun v d => v * 10 + d) 0 = n := by
    simp only [List.foldl]
    omega
  rwa [hvalue] at h

theorem number?_fourDigits {n : Nat} (hn : n < 10000) (rest : List Char) :
    number? 4 (fourDigits n ++ rest) = some (n, rest) := by
  have h := number?_append (mapM_append (mapM_twoDigits (n / 100)) (mapM_twoDigits (n % 100))) rest
  have hvalue : ([n / 100 / 10 % 10, n / 100 % 10] ++ [n % 100 / 10 % 10, n % 100 % 10]).foldl
      (fun v d => v * 10 + d) 0 = n := by
    simp only [List.cons_append, List.nil_append, List.foldl]
    omega
  rwa [hvalue] at h

theorem number?_sixDigits {n : Nat} (hn : n < 1000000) (rest : List Char) :
    number? 6 (sixDigits n ++ rest) = some (n, rest) := by
  have h := number?_append (mapM_append (mapM_append (mapM_twoDigits (n / 10000))
    (mapM_twoDigits (n / 100 % 100))) (mapM_twoDigits (n % 100))) rest
  have hvalue : ([n / 10000 / 10 % 10, n / 10000 % 10] ++
      [n / 100 % 100 / 10 % 10, n / 100 % 100 % 10] ++ [n % 100 / 10 % 10, n % 100 % 10]).foldl
      (fun v d => v * 10 + d) 0 = n := by
    simp only [List.cons_append, List.nil_append, List.foldl]
    omega
  rwa [hvalue] at h

theorem startsOffset_twoDigits (n : Nat) : ∀ c ∈ twoDigits n, startsOffset c = false := by
  intro c hc
  simp only [twoDigits, List.mem_cons, List.not_mem_nil, or_false] at hc
  obtain rfl | rfl := hc
  · exact (digitChar_ne _ (by omega)).1
  · exact (digitChar_ne _ (by omega)).1

/-! ### Times of day -/

/-- Microseconds behind a time of day, if there are any. -/
def fractionText (part : Nat) : List Char :=
  if part = 0 then [] else '.' :: sixDigits part

theorem fraction?_sixDigits {part : Nat} (h : part < 1000000) (more : Bool) :
    fraction? more (sixDigits part) = some (part, more) := by
  have hread := number?_sixDigits h []
  rw [List.append_nil] at hread
  have htaken : Nat.min 6 (sixDigits part).length = 6 := rfl
  simp only [fraction?, htaken, hread]
  simp [isLeft]

theorem clockParts_colon {value : Nat} (hv : value < 100) (more : Bool) (n : Nat) (parts : List Nat)
    {rest : List Char} (hrest : rest ≠ []) :
    clockParts more (n + 1) true parts (twoDigits value ++ ':' :: rest) =
      clockParts more n true (parts ++ [value]) rest := by
  obtain ⟨c, cs, rfl⟩ := List.exists_cons_of_ne_nil hrest
  rw [clockParts]
  simp only [number?_twoDigits hv]
  simp

theorem clockParts_last {value : Nat} (hv : value < 100) (more : Bool) (n : Nat)
    (parts : List Nat) :
    clockParts more (n + 1) true parts (twoDigits value) = some (parts ++ [value], more) := by
  have hread := number?_twoDigits hv []
  rw [List.append_nil] at hread
  rw [clockParts]
  simp only [hread]
  rfl

theorem clockParts_fraction {value part : Nat} (hv : value < 100) (hp : part < 1000000)
    (more : Bool) (n : Nat) {parts : List Nat} (hparts : parts.length = 2) :
    clockParts more (n + 1) true parts (twoDigits value ++ '.' :: sixDigits part) =
      some (parts ++ [value, part], more) := by
  rw [clockParts]
  simp only [number?_twoDigits hv]
  have hcons : ∃ c cs, sixDigits part = c :: cs := ⟨_, _, rfl⟩
  obtain ⟨c, cs, hcs⟩ := hcons
  have hf := fraction?_sixDigits hp more
  rw [hcs] at hf ⊢
  simp [hf, hparts]

variable {seconds part : Nat}

/-- A time of day is read as its hours, minutes, seconds and microseconds. -/
theorem clock?_clockText (hs : seconds < 86400) (hp : part < 1000000) (more : Bool) :
    clock? more (clockText seconds ++ fractionText part) =
      some (⟨seconds / 3600, seconds / 60 % 60, seconds % 60, part⟩, more) := by
  have hparts : clockParts more 3 true [] (clockText seconds ++ fractionText part) =
      some ([seconds / 3600, seconds / 60 % 60, seconds % 60] ++ (if part = 0 then [] else [part]),
        more) := by
    rw [clockText, List.append_assoc, List.append_assoc, List.cons_append,
      clockParts_colon (by omega) more 2 [] (by simp [twoDigits]), List.cons_append,
      clockParts_colon (by omega) more 1 _ (by simp [twoDigits]), fractionText]
    split
    · rw [List.append_nil, clockParts_last (by omega)]
      rfl
    · rw [clockParts_fraction (by omega) hp more 0 rfl]
      rfl
  rw [clock?, hparts]
  by_cases h0 : part = 0
  · subst h0
    rfl
  · rw [if_neg h0]
    rfl

/-- Hours and minutes alone are read as a time of day, too. -/
theorem clock?_take (hs : seconds < 86400) (more : Bool) :
    clock? more ((clockText seconds).take 5) =
      some (⟨seconds / 3600, seconds / 60 % 60, 0, 0⟩, more) := by
  have htake : (clockText seconds).take 5 =
      twoDigits (seconds / 3600) ++ ':' :: twoDigits (seconds / 60 % 60) := rfl
  have hparts : clockParts more 3 true [] ((clockText seconds).take 5) =
      some ([seconds / 3600, seconds / 60 % 60], more) := by
    rw [htake, clockParts_colon (by omega) more 2 [] (by simp [twoDigits]),
      clockParts_last (by omega)]
    rfl
  rw [clock?, hparts]
  rfl

/-! ### Distances from universal time -/

/-- The written form of a distance, behind its sign. -/
def magnitudeText (micros : Nat) : List Char :=
  if micros % 1000000 ≠ 0 then
    clockText (micros / 1000000) ++ '.' :: sixDigits (micros % 1000000)
  else if micros / 1000000 % 60 ≠ 0 then clockText (micros / 1000000)
  else (clockText (micros / 1000000)).take 5

/-- However much of a distance is written, it is read as the whole. -/
theorem clock?_magnitudeText {micros : Nat} (h : micros < 86400000000) :
    ∃ c, clock? false (magnitudeText micros) = some (c, false) ∧
      c.hour * 3600 + c.minute * 60 + c.second = micros / 1000000 ∧
      c.micros = micros % 1000000 := by
  have hs : micros / 1000000 < 86400 := by omega
  have hp : micros % 1000000 < 1000000 := by omega
  have hclock := clock?_clockText hs hp false
  unfold magnitudeText
  generalize micros / 1000000 = seconds at hs hclock
  generalize micros % 1000000 = part at hp hclock
  by_cases hpart : part = 0
  · rw [if_neg (not_not_intro hpart)]
    by_cases hsec : seconds % 60 = 0
    · rw [if_neg (not_not_intro hsec)]
      exact ⟨_, clock?_take hs false, by dsimp only; omega, hpart.symm⟩
    · rw [if_pos hsec]
      rw [fractionText, if_pos hpart, List.append_nil] at hclock
      exact ⟨_, hclock, by dsimp only; omega, rfl⟩
  · rw [if_pos hpart]
    rw [fractionText, if_neg hpart] at hclock
    exact ⟨_, hclock, by dsimp only; omega, rfl⟩

/-- The time of day behind the sign decides what distance is read. -/
theorem offset?_cons {sign : Char} {rest : List Char} {c : Clock} (hsign : sign ≠ 'Z')
    (h : clock? false rest = some (c, false)) :
    offset? (sign :: rest) =
      (let seconds : Int := c.hour * 3600 + c.minute * 60 + c.second
       let micros := if seconds = 0 then 0 else seconds * microsPerSecond + c.micros
       if micros ≥ microsPerDay then none
       else some (if sign = '-' then -micros else micros)) := by
  rw [offset?]
  · simp only [h]
    rfl
  · exact hsign

theorem offset?_offsetText {o : Int} (h : o = 0 ∨ 1000000 ≤ o.natAbs ∧ o.natAbs < 86400000000) :
    offset? (offsetText o) = some o := by
  have htext : offsetText o = (if o < 0 then '-' else '+') :: magnitudeText o.natAbs := rfl
  have hZ : (if o < 0 then '-' else '+') ≠ 'Z' := by
    split <;> decide
  obtain ⟨c, hclock, hsum, hmicros⟩ := clock?_magnitudeText (by omega : o.natAbs < 86400000000)
  have hseconds : (c.hour : Int) * 3600 + c.minute * 60 + c.second = (o.natAbs / 1000000 : Nat) := by
    generalize o.natAbs / 1000000 = seconds at hsum
    omega
  -- A part of a second is shown behind its seconds, so a distance below a second would be lost.
  have hvalue : (if ((o.natAbs / 1000000 : Nat) : Int) = 0 then 0
      else ((o.natAbs / 1000000 : Nat) : Int) * microsPerSecond + (o.natAbs % 1000000 : Nat)) =
      (o.natAbs : Int) := by
    rw [microsPerSecond]
    split <;> omega
  rw [htext, offset?_cons hZ hclock]
  dsimp only
  rw [hseconds, hmicros, hvalue, if_neg (by rw [microsPerDay]; omega)]
  by_cases hneg : o < 0
  · rw [if_pos hneg, if_pos rfl]
    congr 1
    omega
  · rw [if_neg hneg, if_neg (by decide)]
    congr 1
    omega

/-! ### Moments -/

theorem startsOffset_clockText (seconds : Nat) :
    ∀ c ∈ clockText seconds ++ fractionText part, startsOffset c = false := by
  intro c hc
  have hcolon : startsOffset ':' = false := by decide
  have hpoint : startsOffset '.' = false := by decide
  simp only [clockText, fractionText, sixDigits, List.mem_append, List.mem_cons] at hc
  obtain ((h | rfl | h) | rfl | h) | h := hc
  · exact startsOffset_twoDigits _ c h
  · exact hcolon
  · exact startsOffset_twoDigits _ c h
  · exact hcolon
  · exact startsOffset_twoDigits _ c h
  · split at h
    · exact absurd h (List.not_mem_nil)
    · simp only [List.mem_append, List.mem_cons] at h
      obtain rfl | (h | h) | h := h
      · exact hpoint
      · exact startsOffset_twoDigits _ c h
      · exact startsOffset_twoDigits _ c h
      · exact startsOffset_twoDigits _ c h

/-- The written distance from universal time, if that is known. -/
def zoneText (offset : Option Int) : List Char :=
  (offset.map offsetText).getD []

theorem zoneText_cases (offset : Option Int) :
    (offset = none ∧ zoneText offset = []) ∨
      ∃ o c cs, offset = some o ∧ zoneText offset = c :: cs ∧ startsOffset c = true ∧
        offsetText o = c :: cs := by
  cases offset with
  | none => exact .inl ⟨rfl, rfl⟩
  | some o =>
    refine .inr ⟨o, if o < 0 then '-' else '+', magnitudeText o.natAbs, rfl, rfl, ?_, rfl⟩
    split <;> decide

/-- The time of day and the distance behind it are told apart by the sign. -/
theorem time?_append (hs : seconds < 86400) (hp : part < 1000000) {offset : Option Int}
    (h : ∀ o, offset = some o → o = 0 ∨ 1000000 ≤ o.natAbs ∧ o.natAbs < 86400000000) :
    time? (clockText seconds ++ fractionText part ++ zoneText offset) =
      some (((seconds * 1000000 + part : Nat) : Int), offset) := by
  have hplain : ∀ c ∈ clockText seconds ++ fractionText part, (!startsOffset c) = true := by
    intro c hc
    rw [startsOffset_clockText seconds c hc]
    rfl
  have hrange : ¬ (seconds / 3600 > 23 ∨ seconds / 60 % 60 > 59 ∨ seconds % 60 > 59) := by omega
  have hmicros : (((seconds / 3600 : Nat) * 60 + (seconds / 60 % 60 : Nat)) * 60 +
      (seconds % 60 : Nat)) * microsPerSecond + part =
      ((seconds * 1000000 + part : Nat) : Int) := by
    rw [microsPerSecond]
    omega
  rw [time?, List.dropWhile_append_of_pos hplain, List.takeWhile_append_of_pos hplain]
  -- Either nothing is behind the time of day, or the sign of a distance ends it.
  obtain ⟨rfl, hzone⟩ | ⟨o, c, cs, rfl, hzone, hstart, htext⟩ := zoneText_cases offset
  · rw [hzone, List.dropWhile_nil, List.takeWhile_nil, List.append_nil, clock?_clockText hs hp]
    simp only [List.isEmpty_nil, Bool.not_true, Option.bind_eq_bind, Option.bind_some,
      Bool.and_false, if_true, if_false, Bool.false_eq_true, hrange, hmicros]
    rfl
  · have hsign : (!startsOffset c) = false := by rw [hstart]; rfl
    have hoffset := offset?_offsetText (h o rfl)
    rw [htext] at hoffset
    rw [hzone, List.dropWhile_cons_of_neg (by rw [hsign]; decide),
      List.takeWhile_cons_of_neg (by rw [hsign]; decide), List.append_nil, clock?_clockText hs hp,
      hoffset]
    simp only [List.isEmpty_cons, Bool.not_false, Option.bind_eq_bind, Option.bind_some,
      Bool.false_and, if_false, Bool.false_eq_true, hrange, hmicros]
    rfl

def dateText (d : Date) : List Char :=
  fourDigits d.year.toNat ++ '-' :: twoDigits d.month ++ '-' :: twoDigits d.day

theorem dateLength_dateText {d : Date} (rest : List Char) :
    dateLength (dateText d ++ 'T' :: rest) = some 10 := by
  have hweek := (digitChar_ne (d.month / 10 % 10) (by omega)).2
  simp [dateLength, dateText, fourDigits, twoDigits, hweek]

theorem date?_dateText {d : Date} (h : d.isValid = true) (rest : List Char) :
    date? (dateText d ++ rest) 10 = some d := by
  simp only [Date.isValid, Bool.and_eq_true, decide_eq_true_eq] at h
  obtain ⟨⟨⟨⟨⟨hyear, hyear'⟩, -⟩, hmonth⟩, -⟩, hday⟩ := h
  have hday' : d.day < 100 := by
    unfold Date.daysIn at hday
    split at hday <;> split at hday <;> omega
  have hweek := (digitChar_ne (d.month / 10 % 10) (by omega)).2
  have hhead : (twoDigits d.month ++ '-' :: (twoDigits d.day ++ rest)).head? ≠ some 'W' := by
    simpa [twoDigits] using hweek
  rw [dateText, List.append_assoc, List.append_assoc, date?]
  simp only [number?_fourDigits (show d.year.toNat < 10000 by omega), List.cons_append,
    Option.bind_eq_bind, Option.bind_some, List.head?_cons, decide_true, if_true, List.drop_one,
    List.tail_cons, hhead, if_false, number?_twoDigits (show d.month < 100 by omega),
    Bool.not_true, Bool.false_eq_true, number?_twoDigits hday']
  rw [Int.toNat_of_nonneg (by omega)]
  rfl

theorem text_eq (t : Timestamp) :
    t.text = dateText (Date.ofNumber (t.wall / microsPerDay)) ++
      'T' :: (clockText ((t.wall % microsPerDay).toNat / 1000000) ++
        fractionText ((t.wall % microsPerDay).toNat % 1000000) ++ zoneText t.offset) := by
  simp only [text, dateText, fractionText, zoneText, List.append_assoc, List.cons_append]

theorem ofText?_text {t : Timestamp} (h : t.IsValid) : ofText? t.text = some t := by
  have hfirst := h.first_le
  have hlast := h.lt_last
  simp only [firstMicros, lastMicros, ofDate, microsPerDay] at hfirst hlast
  have hvalid := Date.isValid_ofNumber (n := t.wall / 86400000000) (by omega) (by omega)
  have hnumber := Date.number_ofNumber (t.wall / 86400000000)
  have hlength : (dateText (Date.ofNumber (t.wall / 86400000000))).length = 10 := rfl
  rw [text_eq]
  simp only [microsPerDay]
  generalize hrest : clockText _ ++ _ ++ _ = rest
  have hseconds : (t.wall % 86400000000).toNat / 1000000 < 86400 := by omega
  have hpart : (t.wall % 86400000000).toNat % 1000000 < 1000000 := by omega
  have htime := time?_append hseconds hpart h.offset
  rw [hrest] at htime
  have hdrop : (dateText (Date.ofNumber (t.wall / 86400000000)) ++ 'T' :: rest).drop 11 = rest :=
    rfl
  -- Day and time of day make up the moment again.
  have hwall : t.wall / 86400000000 * 86400000000 +
      (((t.wall % 86400000000).toNat / 1000000 * 1000000 +
        (t.wall % 86400000000).toNat % 1000000 : Nat) : Int) = t.wall := by
    omega
  have hlong : ¬ (dateText (Date.ofNumber (t.wall / 86400000000)) ++ 'T' :: rest).length ≤ 10 := by
    rw [List.length_append, hlength, List.length_cons]
    omega
  rw [ofText?, dateLength_dateText, if_neg (by omega)]
  simp only [Option.pure_def, Option.bind_eq_bind, Option.bind_some, hlong, if_false,
    date?_dateText hvalid, hdrop, htime, hvalid, Bool.not_true, Bool.false_eq_true, ofDate,
    microsPerDay, hnumber, hwall]

/-! ### What can be read -/

theorem lt_of_digit? {c : Char} {k : Nat} (h : digit? c = some k) : k < 10 := by
  unfold digit? at h
  split at h
  · next hc =>
    have hle : c.toNat ≤ 57 := UInt32.le_iff_toNat_le.1 hc.2
    have hk := Option.some.inj h
    omega
  · contradiction

theorem lt_of_mapM_digit? {ds : List Char} {vs : List Nat} (h : ds.mapM digit? = some vs) (v : Nat) :
    vs.foldl (fun v d => v * 10 + d) v < (v + 1) * 10 ^ ds.length := by
  induction ds generalizing vs v with
  | nil =>
    cases h
    simp
  | cons c ds ih =>
    rw [List.mapM_cons] at h
    obtain ⟨k, hk, h⟩ := Option.bind_eq_some_iff.1 h
    obtain ⟨ws, hws, h⟩ := Option.bind_eq_some_iff.1 h
    cases h
    have hlt := lt_of_digit? hk
    calc ws.foldl (fun v d => v * 10 + d) (v * 10 + k)
        < (v * 10 + k + 1) * 10 ^ ds.length := ih hws _
      _ ≤ ((v + 1) * 10) * 10 ^ ds.length := Nat.mul_le_mul_right _ (by omega)
      _ = (v + 1) * 10 ^ (ds.length + 1) := by rw [Nat.pow_succ']; ac_rfl

/-- A number of `n` digits is below the `n`-th power of ten. -/
theorem lt_of_number? {n : Nat} {cs rest : List Char} {k : Nat} (h : number? n cs = some (k, rest)) :
    k < 10 ^ n := by
  simp only [number?] at h
  split at h
  · contradiction
  · obtain ⟨vs, hvs, h⟩ := Option.bind_eq_some_iff.1 h
    cases h
    have hlt := lt_of_mapM_digit? hvs 0
    have hlen : (cs.take n).length = n := by
      have := List.length_take_le n cs
      omega
    rwa [hlen, Nat.zero_add, Nat.one_mul] at hlt

theorem lt_of_fraction? {more left : Bool} {cs : List Char} {k : Nat}
    (h : fraction? more cs = some (k, left)) : k < 1000000 := by
  obtain ⟨⟨n, rest⟩, hn, h⟩ := Option.bind_eq_some_iff.1 h
  cases h
  have hlt := lt_of_number? hn
  have htaken : Nat.min 6 cs.length ≤ 6 := Nat.min_le_left 6 cs.length
  calc n * 10 ^ (6 - Nat.min 6 cs.length)
      < 10 ^ Nat.min 6 cs.length * 10 ^ (6 - Nat.min 6 cs.length) :=
        Nat.mul_lt_mul_of_pos_right hlt (Nat.pow_pos (by decide))
    _ = 10 ^ 6 := by rw [← Nat.pow_add, Nat.add_sub_cancel' htaken]

theorem lt_of_clockParts {more left : Bool} {n : Nat} {colons : Bool} {parts parts' : List Nat}
    {cs : List Char} (hparts : ∀ k ∈ parts, k < 1000000)
    (h : clockParts more n colons parts cs = some (parts', left)) : ∀ k ∈ parts', k < 1000000 := by
  -- A fraction is below a million, and so are the zeros put before it.
  have hlast : ∀ (zeros : List Nat) {parts : List Nat} {cs : List Char}, (∀ k ∈ parts, k < 1000000) →
      (∀ k ∈ zeros, k = 0) →
      ((fraction? more cs).bind fun r => some (parts ++ zeros ++ [r.1], r.2)) =
        some (parts', left) → ∀ k ∈ parts', k < 1000000 := by
    intro zeros parts cs hparts hzeros h k hk
    obtain ⟨⟨micros, left'⟩, hmicros, h⟩ := Option.bind_eq_some_iff.1 h
    cases h
    simp only [List.mem_append, List.mem_singleton] at hk
    obtain (hk | hk) | rfl := hk
    · exact hparts k hk
    · rw [hzeros k hk]
      decide
    · exact lt_of_fraction? hmicros
  induction n generalizing colons parts cs with
  | zero =>
    have hfraction : ((fraction? more cs).bind fun r => some (parts ++ [] ++ [r.1], r.2)) =
        some (parts', left) := by
      rw [List.append_nil]
      exact h
    exact hlast [] hparts nofun hfraction
  | succ n ih =>
    rw [clockParts] at h
    obtain ⟨⟨value, rest⟩, hvalue, h⟩ := Option.bind_eq_some_iff.1 h
    have hlt := lt_of_number? hvalue
    have hparts' : ∀ k ∈ parts ++ [value], k < 1000000 := by
      intro k hk
      obtain hk | hk := List.mem_append.1 hk
      · exact hparts k hk
      · rw [List.mem_singleton.1 hk]
        omega
    dsimp only at h
    split at h
    · cases h
      exact hparts'
    · split at h
      · cases h
        exact hparts'
      · contradiction
    · next c rest' _ =>
      generalize (if (parts ++ [value]).length = 1 then c == ':' else colons) = colons' at h
      split at h
      · exact ih hparts' h
      · split at h
        · exact hlast _ hparts' (fun k hk => List.eq_of_mem_replicate hk) h
        · split at h
          · exact ih hparts' h
          · contradiction

theorem lt_of_clock? {more left : Bool} {cs : List Char} {c : Clock}
    (h : clock? more cs = some (c, left)) : c.micros < 1000000 := by
  obtain ⟨⟨parts, left'⟩, hparts, h⟩ := Option.bind_eq_some_iff.1 h
  cases h
  have hlt := lt_of_clockParts (by simp) hparts
  dsimp only
  rw [List.getD_eq_getElem?_getD]
  cases hk : parts[3]? with
  | none => decide
  | some k => exact hlt k (List.mem_of_getElem? hk)

/-- A distance that is read is none, or between a second and a day. -/
theorem of_offset? {cs : List Char} {o : Int} (h : offset? cs = some o) :
    o = 0 ∨ 1000000 ≤ o.natAbs ∧ o.natAbs < 86400000000 := by
  unfold offset? at h
  split at h
  · split at h
    · contradiction
    · cases h
      exact .inl rfl
  · next sign rest _ =>
    obtain ⟨⟨c, left⟩, hclock, h⟩ := Option.bind_eq_some_iff.1 h
    have hlt := lt_of_clock? hclock
    have hseconds : (0 : Int) ≤ c.hour * 3600 + c.minute * 60 + c.second := by omega
    dsimp only at h
    generalize (c.hour : Int) * 3600 + c.minute * 60 + c.second = seconds at h hseconds
    generalize hmicros : (if seconds = 0 then 0 else seconds * microsPerSecond + c.micros : Int) =
      micros at h
    have hlow : micros = 0 ∨ 1000000 ≤ micros := by
      rw [← hmicros, microsPerSecond]
      split <;> omega
    split at h
    · contradiction
    · split at h
      · contradiction
      · next hhigh =>
        cases h
        rw [microsPerDay] at hhigh
        split <;> omega
  · contradiction

theorem of_time? {cs : List Char} {micros : Int} {offset : Option Int}
    (h : time? cs = some (micros, offset)) :
    (0 ≤ micros ∧ micros < 86400000000) ∧
      ∀ o, offset = some o → o = 0 ∨ 1000000 ≤ o.natAbs ∧ o.natAbs < 86400000000 := by
  obtain ⟨⟨c, left⟩, hclock, h⟩ := Option.bind_eq_some_iff.1 h
  have hlt := lt_of_clock? hclock
  dsimp only at h
  split at h
  · contradiction
  · -- The range check is the same whether a distance is written or not.
    have hrange : ∀ offset' : Option Int,
        (if c.hour > 23 ∨ c.minute > 59 ∨ c.second > 59 then (none : Option (Int × Option Int))
        else some (((c.hour * 60 + c.minute) * 60 + c.second) * microsPerSecond + c.micros,
          offset')) = some (micros, offset) →
        (0 ≤ micros ∧ micros < 86400000000) ∧ offset' = offset := by
      intro offset' h
      split at h
      · contradiction
      · cases h
        exact ⟨by rw [microsPerSecond]; omega, rfl⟩
    split at h
    · obtain ⟨hmicros, rfl⟩ := hrange none h
      exact ⟨hmicros, by simp⟩
    · obtain ⟨offset', hoffset, h⟩ := Option.bind_eq_some_iff.1 h
      obtain ⟨hmicros, rfl⟩ := hrange offset' h
      refine ⟨hmicros, ?_⟩
      rintro o rfl
      obtain ⟨o', ho, heq⟩ := Option.map_eq_some_iff.1 hoffset
      cases heq
      exact of_offset? ho

theorem isValid_of_ofDate {d : Date} {micros : Int} {offset : Option Int} {t : Timestamp}
    (hmicros : 0 ≤ micros ∧ micros < 86400000000)
    (hoffset : ∀ o, offset = some o → o = 0 ∨ 1000000 ≤ o.natAbs ∧ o.natAbs < 86400000000)
    (h : (if (!d.isValid) = true then none else some ⟨ofDate d + micros, offset⟩) = some t) :
    t.IsValid := by
  split at h
  · contradiction
  · next hvalid =>
    cases h
    obtain ⟨hfirst, hlast⟩ := Date.number_bounds (d := d) (by simpa using hvalid)
    refine ⟨?_, ?_, hoffset⟩
    · simp only [firstMicros, ofDate, microsPerDay]
      omega
    · simp only [lastMicros, ofDate, microsPerDay]
      omega

/-- Whatever is read as a moment is one. -/
theorem isValid_of_ofText? {cs : List Char} {t : Timestamp} (h : ofText? cs = some t) :
    t.IsValid := by
  rw [ofText?] at h
  split at h
  · contradiction
  · obtain ⟨length, -, h⟩ := Option.bind_eq_some_iff.1 h
    obtain ⟨d, -, h⟩ := Option.bind_eq_some_iff.1 h
    dsimp only at h
    split at h
    · exact isValid_of_ofDate ⟨by decide, by decide⟩ (by simp) h
    · obtain ⟨⟨micros, offset⟩, htime, h⟩ := Option.bind_eq_some_iff.1 h
      obtain ⟨hmicros, hoffset⟩ := of_time? htime
      exact isValid_of_ofDate hmicros hoffset h

end Coffer.Timestamp
