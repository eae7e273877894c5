import Coffer.Pattern
import Mathlib.Data.List.Infix

/-!
Why a pattern cannot be read. Most failures have a text of their own, and there are so many of them
that nothing is said here about which text is refused with which complaint. The other three have
none, and for each of them it is said what a pattern must have in it to fail so: a repetition with a
count too large to count to, one with a count of too many digits, or flags that choose two classes
of characters at once.

A reader keeps to the pattern when it goes on behind a part of it, chooses classes by its flags
only, and fails only with a failure that the pattern explains (`Keeps`). Readers that do so can be
put one behind the other, so there is one lemma for each of them, and the proofs follow their text.
Where a failure without a text is decided, it matters what was taken before: bounds are read behind
a brace, flags behind a parenthesis and a question mark.

Main statements: a text that is no pattern explains its failure (`ofText_error`), so one with modest
counts and flags is a pattern or has something to be said about it (`IsModest.isMalformed`).
-/

namespace Coffer.Pattern

/-- A failure with a text of its own. -/
def Error.IsMalformed : Error → Prop
  | .malformed .. => True
  | _ => False

/-- The bounds of a repetition as a pattern has them: one count, or two with a comma between. -/
def boundsText (low : List Char) : Option (List Char) → List Symbol
  | none => .plain '\x7b' :: low.map .plain ++ [.plain '\x7d']
  | some high =>
    .plain '\x7b' :: low.map .plain ++ .plain ',' :: high.map .plain ++ [.plain '\x7d']

/-- A count stands in the pattern: it is one of the bounds of a repetition. -/
def HasCount (whole : List Symbol) (digits : List Char) : Prop :=
  (∀ c ∈ digits, isDecimal c = true) ∧
    ∃ low high, boundsText low high <:+: whole ∧ (digits = low ∨ high = some digits)

/-- A letter stands in the pattern among flags: behind `(?`, with only other flags between. -/
def HasFlag (whole : List Symbol) (c : Char) : Prop :=
  ∃ before : List Symbol, (∀ s ∈ before, (flag? s).isSome = true) ∧
    .plain '(' :: .plain '?' :: before ++ [.plain c] <:+: whole

/-- What a pattern has to have in it to fail in a certain way. -/
def Explains (whole : List Symbol) : Error → Prop
  | .malformed .. => True
  | .countTooLarge => ∃ digits, HasCount whole digits ∧ countLimit ≤ digitsValue 10 digits
  | .countTooLong => ∃ digits, HasCount whole digits ∧ Integer.maxDecimalDigits < digits.length
  | .conflictingFlags => HasFlag whole 'a' ∧ HasFlag whole 'u'

structure Flags.AreIn (whole : List Symbol) (f : Flags) : Prop where
  ascii : f.ascii = true → HasFlag whole 'a'
  wide : f.wide = true → HasFlag whole 'u'

/-- Reading is somewhere in the pattern, with flags from the pattern. -/
structure Reading.IsWithin (whole : List Symbol) (r : Reading) : Prop where
  rest : r.rest <:+ whole
  flags : r.flags.AreIn whole

variable {whole : List Symbol} {α β : Type} {P : α → Prop} {Q : β → Prop}

/-- What a part of the pattern was read as: a value, and reading goes on within the pattern, or a
failure that the pattern explains. -/
def IsSafe (whole : List Symbol) (P : α → Prop) : Except Error (α × Reading) → Prop
  | .ok (a, r) => r.IsWithin whole ∧ P a
  | .error e => Explains whole e

/-- The reader stays within the pattern, fails only for what is in it, and yields values with a
property. -/
def Yields (whole : List Symbol) (P : α → Prop) (x : Reader α) : Prop :=
  ∀ r, r.IsWithin whole → IsSafe whole P (x r)

/-- The same for values without a property. -/
abbrev Keeps (whole : List Symbol) (x : Reader α) : Prop :=
  Yields whole (fun _ => True) x

/-! ### Putting readers together -/

theorem Yields.pure {a : α} (h : P a) : Yields whole P (pure a) :=
  fun _ hr => ⟨hr, h⟩

theorem keeps_pure (a : α) : Keeps whole (pure a) :=
  .pure trivial

/-- Reading goes on from where a reader left it. What is known of that place is not only that it is
within the pattern but also what the reader took on the way. -/
theorem IsSafe.step {x : Reader α} {f : α → Reader β} {r : Reading} (hx : IsSafe whole P (x r))
    (hf : ∀ a r', x r = .ok (a, r') → r'.IsWithin whole → P a → IsSafe whole Q (f a r')) :
    IsSafe whole Q ((x >>= f) r) := by
  change IsSafe whole Q ((x r).bind fun (a, r') => f a r')
  cases hxr : x r with
  | error e =>
    rw [hxr] at hx
    exact hx
  | ok result =>
    obtain ⟨a, r'⟩ := result
    rw [hxr] at hx
    exact hf a r' hxr hx.1 hx.2

theorem exists_of_bind {x : Reader α} {f : α → Reader β} {r r'' : Reading} {b : β}
    (h : (x >>= f) r = .ok (b, r'')) : ∃ a r', x r = .ok (a, r') ∧ f a r' = .ok (b, r'') := by
  change (x r).bind (fun (a, r') => f a r') = _ at h
  cases hxr : x r with
  | error e =>
    rw [hxr] at h
    cases h
  | ok result =>
    rw [hxr] at h
    exact ⟨result.1, result.2, rfl, h⟩

theorem Yields.bind {x : Reader α} {f : α → Reader β} (hx : Yields whole P x)
    (hf : ∀ a, P a → Yields whole Q (f a)) : Yields whole Q (x >>= f) :=
  fun r hr => (hx r hr).step fun a r' _ hr' ha => hf a ha r' hr'

theorem Keeps.bind {x : Reader α} {f : α → Reader β} (hx : Keeps whole x)
    (hf : ∀ a, Yields whole Q (f a)) : Yields whole Q (x >>= f) :=
  Yields.bind hx fun a _ => hf a

theorem Yields.keeps {x : Reader α} (hx : Yields whole P x) : Keeps whole x := by
  intro r hr
  have hsafe := hx r hr
  cases hxr : x r with
  | error e =>
    rw [hxr] at hsafe
    exact hsafe
  | ok result =>
    rw [hxr] at hsafe
    exact ⟨hsafe.1, trivial⟩

theorem Yields.ite {c : Prop} [Decidable c] {x y : Reader α} (hx : Yields whole P x)
    (hy : Yields whole P y) : Yields whole P (if c then x else y) := by
  split <;> assumption

theorem IsSafe.iteBind {c : Prop} [Decidable c] {x y : Reader α} {f : α → Reader β} {r : Reading}
    (hx : c → IsSafe whole P (x r)) (hy : ¬ c → IsSafe whole P (y r))
    (hf : ∀ a, P a → Yields whole Q (f a)) :
    IsSafe whole Q ((if c then x >>= f else y >>= f) r) := by
  split
  · next hc => exact (hx hc).step fun a r' _ hr' ha => hf a ha r' hr'
  · next hc => exact (hy hc).step fun a r' _ hr' ha => hf a ha r' hr'

theorem Yields.check {c : Prop} [Decidable c] {x : Reader Unit} {f : Unit → Reader α}
    (hx : Keeps whole x) (hf : Yields whole P (f ())) :
    Yields whole P (if c then x >>= f else f ()) :=
  (hx.bind fun _ => hf).ite hf

/-! ### Complaints -/

theorem yields_failAt (problem : Problem) (position : Nat) :
    Yields whole P (failAt problem position) :=
  fun _ _ => trivial

theorem yields_failHere (problem : Problem) : Yields whole P (failHere problem) :=
  fun _ _ => trivial

theorem yields_failBack (problem : Problem) (back : Nat) :
    Yields whole P (failBack problem back) :=
  fun _ _ => trivial

/-! ### Symbols -/

theorem yields_get : Yields whole (·.IsWithin whole) (get : Reader Reading) :=
  fun _ hr => ⟨hr, hr⟩

theorem keeps_get : Keeps whole (get : Reader Reading) :=
  yields_get.keeps

theorem keeps_set {r : Reading} (h : r.IsWithin whole) : Keeps whole (set r : Reader Unit) :=
  fun _ _ => ⟨h, trivial⟩

theorem keeps_modify {f : Reading → Reading} (h : ∀ r, r.IsWithin whole → (f r).IsWithin whole) :
    Keeps whole (modify f : Reader Unit) :=
  fun r hr => ⟨h r hr, trivial⟩

theorem keeps_tell : Keeps whole tell :=
  keeps_get.bind fun _ => keeps_pure _

theorem keeps_peek : Keeps whole peek :=
  keeps_get.bind fun _ => keeps_pure _

theorem keeps_take : Keeps whole take := by
  refine yields_get.bind fun r hr => ?_
  split
  · exact keeps_pure _
  · next s rest hrest =>
    have hsuffix : rest <:+ whole := (List.suffix_cons s rest).trans (hrest ▸ hr.rest)
    refine .check (yields_failAt _ _) ?_
    exact Keeps.bind (keeps_set ⟨hsuffix, hr.flags⟩) fun _ => keeps_pure _

theorem keeps_accept (c : Char) : Keeps whole (accept c) := by
  refine keeps_peek.bind fun s => ?_
  exact .ite (keeps_take.bind fun _ => keeps_pure _) (keeps_pure _)

theorem keeps_takeWhile (p : Char → Bool) : ∀ n, Keeps whole (takeWhile p n)
  | 0 => keeps_pure _
  | n + 1 => by
    have ih : Keeps whole (takeWhile p n) := keeps_takeWhile p n
    refine keeps_peek.bind fun s => ?_
    split
    · exact .ite (keeps_take.bind fun _ => ih.bind fun _ => keeps_pure _) (keeps_pure _)
    · exact keeps_pure _

theorem keeps_takeUntil (terminator : Char) (what : String) : ∀ (budget : Nat) (name : List Char),
    Keeps whole (takeUntil terminator what budget name)
  | 0, name => keeps_pure _
  | budget + 1, name => by
    refine keeps_take.bind fun s => ?_
    split
    · exact .ite (yields_failHere _) (yields_failBack _ _)
    · exact .ite (.ite (yields_failBack _ _) (keeps_pure _)) (keeps_takeUntil _ _ budget _)

theorem keeps_takeName (terminator : Char) (what : String) :
    Keeps whole (takeName terminator what) :=
  keeps_get.bind fun _ => keeps_takeUntil _ _ _ _

theorem eq_of_take {r r' : Reading} {o : Option Symbol} (h : take r = .ok (o, r')) :
    o = r.rest.head? ∧ r'.rest = r.rest.tail := by
  obtain ⟨_, _, ⟨⟩, h⟩ := exists_of_bind h
  generalize hrest : r.rest = symbols at h
  cases symbols with
  | nil =>
    cases h
    exact ⟨rfl, hrest⟩
  | cons s rest =>
    dsimp only at h
    split at h
    · obtain ⟨_, _, hfail, -⟩ := exists_of_bind h
      cases hfail
    · obtain ⟨_, _, ⟨⟩, h⟩ := exists_of_bind h
      cases h
      exact ⟨rfl, rfl⟩

theorem rest_of_take {r r' : Reading} {s : Symbol} (h : take r = .ok (some s, r')) :
    r.rest = s :: r'.rest := by
  obtain ⟨hhead, htail⟩ := eq_of_take h
  rw [htail]
  exact List.eq_cons_of_mem_head? hhead.symm

theorem rest_of_accept {c : Char} {r r' : Reading} (h : accept c r = .ok (true, r')) :
    r.rest = .plain c :: r'.rest := by
  obtain ⟨_, _, ⟨⟩, h⟩ := exists_of_bind h
  split at h
  · next hhead =>
    obtain ⟨o, _, htake, ⟨⟩⟩ := exists_of_bind h
    obtain ⟨rfl, -⟩ := eq_of_take htake
    exact rest_of_take (hhead ▸ htake)
  · cases h

theorem eq_of_accept {c : Char} {r r' : Reading} (h : accept c r = .ok (false, r')) : r' = r := by
  obtain ⟨_, _, ⟨⟩, h⟩ := exists_of_bind h
  split at h
  · obtain ⟨_, _, -, htrue⟩ := exists_of_bind h
    cases htrue
  · cases h
    rfl

/-- The characters that were taken stood in front. -/
theorem rest_of_takeWhile {p : Char → Bool} : ∀ {n : Nat} {r r' : Reading} {cs : List Char},
    takeWhile p n r = .ok (cs, r') →
      (∀ c ∈ cs, p c = true) ∧ r.rest = cs.map .plain ++ r'.rest
  | 0, r, r', cs, h => by
    cases h
    exact ⟨nofun, rfl⟩
  | n + 1, r, r', cs, h => by
    -- The run ends at once where no symbol is left or the symbol is not of the kind.
    have hstop : cs = [] ∧ r' = r →
        (∀ c ∈ cs, p c = true) ∧ r.rest = cs.map .plain ++ r'.rest := by
      rintro ⟨rfl, rfl⟩
      exact ⟨nofun, rfl⟩
    obtain ⟨_, _, ⟨⟩, h⟩ := exists_of_bind h
    generalize hhead : r.rest.head? = head at h
    split at h
    · split at h
      · next hc =>
        obtain ⟨_, r₁, htake, h⟩ := exists_of_bind h
        obtain ⟨more, r₂, hmore, ⟨⟩⟩ := exists_of_bind h
        obtain ⟨hall, hafter⟩ := rest_of_takeWhile hmore
        refine ⟨List.forall_mem_cons.mpr ⟨hc, hall⟩, ?_⟩
        rw [List.map_cons, List.cons_append, ← hafter]
        obtain ⟨rfl, -⟩ := eq_of_take htake
        exact rest_of_take (hhead ▸ htake)
      · cases h
        exact hstop ⟨rfl, rfl⟩
    · cases h
      exact hstop ⟨rfl, rfl⟩

/-! ### Escapes -/

theorem keeps_hexEscape (start : Nat) (c : Char) (n : Nat) :
    Keeps whole (hexEscape start c n) := by
  refine (keeps_takeWhile _ n).bind fun digits => ?_
  exact .check (yields_failAt _ _) (.check (yields_failAt _ _) (keeps_pure _))

theorem keeps_namedEscape (start : Nat) : Keeps whole (namedEscape start) := by
  refine (keeps_accept _).bind fun opened => ?_
  refine .check (yields_failHere _) ?_
  refine (keeps_takeName _ _).bind fun name => ?_
  split
  · exact keeps_pure _
  · exact yields_failAt _ _

theorem keeps_octalCode (start : Nat) (digits : List Char) :
    Keeps whole (octalCode start digits) := by
  unfold octalCode
  exact .check (yields_failAt _ _) (keeps_pure _)

theorem keeps_commonEscape (start : Nat) (c : Char) : Keeps whole (commonEscape start c) := by
  unfold commonEscape
  split
  · exact (keeps_hexEscape _ _ _).bind fun _ => keeps_pure _
  · exact (keeps_hexEscape _ _ _).bind fun _ => keeps_pure _
  · exact (keeps_hexEscape _ _ _).bind fun _ => keeps_pure _
  · exact (keeps_namedEscape _).bind fun _ => keeps_pure _
  · exact keeps_pure _

theorem keeps_plainEscape (start : Nat) (c : Char) : Keeps whole (plainEscape start c) :=
  .ite (yields_failAt _ _) (keeps_pure _)

theorem keeps_setEscape (start : Nat) (c : Char) : Keeps whole (setEscape start c) := by
  unfold setEscape
  split
  · exact keeps_pure _
  split
  · exact keeps_pure _
  refine (keeps_commonEscape start c).bind fun common => ?_
  split
  · exact keeps_pure _
  refine .ite ?_ (keeps_plainEscape _ _)
  refine (keeps_takeWhile _ _).bind fun digits => ?_
  exact (keeps_octalCode _ _).bind fun _ => keeps_pure _

theorem keeps_checkLookbehindGroup (group : Nat) :
    Keeps whole (checkLookbehindGroup group) := by
  refine keeps_get.bind fun r => ?_
  split
  · exact keeps_pure _
  · exact .check (yields_failHere _) (.ite (yields_failHere _) (keeps_pure _))

theorem keeps_groupReference (start : Nat) (digits : List Char) :
    Keeps whole (groupReference start digits) := by
  refine keeps_get.bind fun r => ?_
  refine .ite (.check (yields_failAt _ _) ?_) (yields_failAt _ _)
  exact (keeps_checkLookbehindGroup _).bind fun _ => keeps_pure _

theorem keeps_numericEscape (start : Nat) (c : Char) : Keeps whole (numericEscape start c) := by
  refine (keeps_takeWhile _ 1).bind fun digits => ?_
  split
  · refine .ite ?_ (keeps_groupReference _ _)
    refine (keeps_takeWhile _ 1).bind fun more => ?_
    split
    · exact (keeps_octalCode _ _).bind fun _ => keeps_pure _
    · exact keeps_groupReference _ _
  · exact keeps_groupReference _ _

theorem keeps_itemEscape (start : Nat) (c : Char) : Keeps whole (itemEscape start c) := by
  unfold itemEscape
  split
  · exact keeps_pure _
  split
  · exact keeps_pure _
  split
  · exact keeps_pure _
  refine (keeps_commonEscape start c).bind fun common => ?_
  split
  · exact keeps_pure _
  refine .ite ((keeps_takeWhile _ _).bind fun _ => keeps_pure _) ?_
  exact .ite (keeps_numericEscape _ _) (keeps_plainEscape _ _)

/-! ### Sets -/

theorem keeps_setPart (s : Symbol) : Keeps whole (setPart s) := by
  unfold setPart
  split
  · exact keeps_pure _
  · exact keeps_tell.bind fun _ => (keeps_setEscape _ _).bind fun _ => keeps_pure _

theorem keeps_setItems (here : Nat) : ∀ (budget : Nat) (items : List SetItem),
    Keeps whole (setItems here budget items)
  | 0, items => keeps_pure _
  | budget + 1, items => by
    refine keeps_take.bind fun first => ?_
    split
    · exact yields_failAt _ _
    refine .ite (keeps_pure _) ?_
    refine (keeps_setPart _).bind fun low => ?_
    refine (keeps_accept _).bind fun ranged => ?_
    refine .ite ?_ (keeps_setItems here budget _)
    refine keeps_take.bind fun last => ?_
    split
    · exact yields_failAt _ _
    refine .ite (keeps_pure _) ?_
    refine (keeps_setPart _).bind fun high => ?_
    dsimp only
    split
    · exact .check (yields_failBack _ _) (keeps_setItems here budget _)
    · exact yields_failBack _ _

theorem keeps_characterSet : Keeps whole characterSet := by
  refine keeps_tell.bind fun position => ?_
  refine (keeps_accept _).bind fun negated => ?_
  refine keeps_get.bind fun r => ?_
  refine (keeps_setItems _ _ _).bind fun items => ?_
  split
  · exact keeps_pure _
  · exact keeps_pure _

/-! ### Flags -/

theorem Flags.areIn_none : Flags.AreIn whole {} :=
  ⟨nofun, nofun⟩

theorem Flags.AreIn.union {f g : Flags} (hf : f.AreIn whole) (hg : g.AreIn whole) :
    (f.union g).AreIn whole := by
  constructor
  · intro h
    exact (Bool.or_eq_true_iff.mp h).elim hf.ascii hg.ascii
  · intro h
    exact (Bool.or_eq_true_iff.mp h).elim hf.wide hg.wide

theorem areIn_flag? {s : Symbol} {before : List Symbol}
    (hbefore : ∀ s ∈ before, (flag? s).isSome = true)
    (h : .plain '(' :: .plain '?' :: before ++ [s] <:+: whole) :
    ((flag? s).getD {}).AreIn whole := by
  cases s with
  | escaped c => exact Flags.areIn_none
  | plain c =>
    unfold flag? Flags.ofLetter?
    dsimp only
    split
    · exact ⟨nofun, nofun⟩
    · exact ⟨nofun, nofun⟩
    · exact ⟨nofun, nofun⟩
    · exact ⟨nofun, nofun⟩
    · exact ⟨fun _ => ⟨before, hbefore, h⟩, nofun⟩
    · exact ⟨nofun, fun _ => ⟨before, hbefore, h⟩⟩
    · exact ⟨nofun, nofun⟩
    · exact Flags.areIn_none

/-- Flags that are turned on stand in the pattern. Behind the question mark there were the flags
`before`, which have been read, and `s`. -/
theorem isSafe_flagsOn : ∀ (budget : Nat) {s : Symbol} {on : Flags} (before : List Symbol)
    {r : Reading}, r.IsWithin whole → (∀ s ∈ before, (flag? s).isSome = true) →
    ((flag? s).isSome || isLocaleFlag s) = true →
    .plain '(' :: .plain '?' :: before ++ s :: r.rest <:+ whole → on.AreIn whole →
    IsSafe whole (fun x => x.1.AreIn whole) (flagsOn budget s on r)
  | 0, s, on, before, r, hr, _, _, _, hon => ⟨hr, hon⟩
  | budget + 1, s, on, before, r, hr, hbefore, hs, hbehind, hon => by
    have hfront : .plain '(' :: .plain '?' :: before ++ [s] <:+: whole := by
      refine List.IsInfix.trans ?_ hbehind.isInfix
      exact ⟨[], r.rest, by simp⟩
    have hflag := hon.union (areIn_flag? hbefore hfront)
    unfold flagsOn
    split
    · trivial
    next hlocale =>
    -- The flag of byte patterns has been refused, so `s` can stand before another flag.
    have hsome : (flag? s).isSome = true := by simpa [hlocale] using hs
    dsimp only
    split
    · trivial
    refine (keeps_take r hr).step ?_
    rintro next r₁ htake hr₁ -
    split
    · trivial
    next next =>
    split
    · exact ⟨hr₁, hflag⟩
    split
    · trivial
    next hnext =>
    rw [rest_of_take htake] at hbehind
    refine isSafe_flagsOn budget (before ++ [s]) hr₁ ?_ ?_ ?_ hflag
    · exact List.forall_mem_append.mpr ⟨hbefore, List.forall_mem_singleton.mpr hsome⟩
    · simpa [Option.isNone_iff_eq_none, Option.isSome_iff_ne_none, or_iff_not_imp_left] using hnext
    · simpa using hbehind

theorem keeps_flagsOff : ∀ (budget : Nat) (s : Symbol) (off : Flags),
    Keeps whole (flagsOff budget s off)
  | 0, s, off => keeps_pure _
  | budget + 1, s, off => by
    unfold flagsOff
    refine .check (yields_failHere _) ?_
    refine keeps_take.bind fun next => ?_
    split
    · exact yields_failHere _
    exact .ite (keeps_pure _) (.check (yields_failBack _ _) (keeps_flagsOff budget _ _))

theorem isSafe_flags {s : Symbol} {r : Reading} (hr : r.IsWithin whole)
    (hs : ((flag? s).isSome || isLocaleFlag s || decide (s = .plain '-')) = true)
    (hbehind : .plain '(' :: .plain '?' :: s :: r.rest <:+ whole) :
    IsSafe whole (fun _ => True) (flags s r) := by
  have hon : ∀ budget, ¬ s = .plain '-' →
      IsSafe whole (fun x => x.1.AreIn whole) (flagsOn budget s {} r) := by
    intro budget hdash
    have hs' : ((flag? s).isSome || isLocaleFlag s) = true := by simpa [hdash] using hs
    exact isSafe_flagsOn budget [] hr nofun hs' hbehind Flags.areIn_none
  unfold flags
  refine (keeps_get r hr).step ?_
  rintro _ _ ⟨⟩ - -
  refine .iteBind ?_ (hon _) ?_
  · exact fun _ => ⟨hr, Flags.areIn_none⟩
  rintro ⟨on, last⟩ hon
  -- Flags of the whole pattern are the only ones that stay. Those of a group end with it, so
  -- nothing has to be known of where they stand.
  refine .ite ?_ ?_
  · refine (keeps_modify fun r hr => ?_).bind fun _ => keeps_pure _
    exact ⟨hr.rest, hr.flags.union hon⟩
  refine .check (yields_failBack _ _) ?_
  refine .ite ?_ ?_
  · refine keeps_take.bind fun first => ?_
    split
    · exact fun _ _ => trivial
    refine .check (yields_failBack _ _) ?_
    refine (keeps_flagsOff _ _ _).bind fun off => ?_
    exact .check (yields_failBack _ _) (.check (yields_failBack _ _) (keeps_pure _))
  · refine (keeps_pure _).bind fun off => ?_
    exact .check (yields_failBack _ _) (.check (yields_failBack _ _) (keeps_pure _))

/-! ### Groups -/

theorem keeps_checkGroupName (name : List Char) (back : Nat) :
    Keeps whole (checkGroupName name back) := by
  unfold checkGroupName
  exact .ite (yields_failBack _ _) (keeps_pure _)

theorem keeps_openGroup (name : Option (List Char)) : Keeps whole (openGroup name) := by
  refine yields_get.bind fun r hr => ?_
  split
  · refine Keeps.bind (keeps_set ?_) fun _ => keeps_pure _
    exact ⟨hr.rest, hr.flags⟩
  · dsimp only
    split
    · exact fun _ _ => trivial
    · refine Keeps.bind (keeps_set ?_) fun _ => keeps_pure _
      exact ⟨hr.rest, hr.flags⟩

theorem keeps_closeGroup (group : Nat) (body : List Node) : Keeps whole (closeGroup group body) :=
  keeps_modify fun _ hr => ⟨hr.rest, hr.flags⟩

theorem keeps_namedReference : Keeps whole namedReference := by
  refine (keeps_takeName _ _).bind fun name => ?_
  refine (keeps_checkGroupName _ _).bind fun _ => ?_
  refine keeps_get.bind fun r => ?_
  split
  · exact yields_failBack _ _
  · refine .check (yields_failBack _ _) ?_
    exact (keeps_checkLookbehindGroup _).bind fun _ => keeps_pure _

theorem keeps_conditionGroup : Keeps whole conditionGroup := by
  unfold conditionGroup
  refine (keeps_takeName _ _).bind fun name => ?_
  refine .ite ?_ ?_
  · refine keeps_get.bind fun r => ?_
    split
    · exact fun _ _ => trivial
    · refine (keeps_pure _).bind fun group => ?_
      exact (keeps_checkLookbehindGroup _).bind fun _ => keeps_pure _
  · split
    · exact fun _ _ => trivial
    refine .check (yields_failBack _ _) ?_
    refine .check (yields_failBack _ _) ?_
    refine .check (yields_failBack _ _) ?_
    refine keeps_tell.bind fun position => ?_
    refine (keeps_modify fun r hr => ?_).bind fun _ => ?_
    · split
      · exact hr
      · exact ⟨hr.rest, hr.flags⟩
    refine (keeps_pure _).bind fun group => ?_
    exact (keeps_checkLookbehindGroup _).bind fun _ => keeps_pure _

theorem keeps_skipComment (start : Nat) : ∀ budget, Keeps whole (skipComment start budget)
  | 0 => keeps_pure _
  | budget + 1 => by
    refine keeps_take.bind fun s => ?_
    split
    · exact yields_failAt _ _
    · exact .ite (keeps_pure _) (keeps_skipComment start budget)

theorem keeps_skipLine : ∀ budget, Keeps whole (skipLine budget)
  | 0 => keeps_pure _
  | budget + 1 => by
    refine keeps_take.bind fun s => ?_
    split
    · exact keeps_pure _
    · exact .ite (keeps_pure _) (keeps_skipLine budget)

/-- What comes behind an opening parenthesis. -/
theorem isSafe_groupKind {r : Reading} (start : Nat) (hr : r.IsWithin whole)
    (hbehind : .plain '(' :: r.rest <:+ whole) :
    IsSafe whole (fun _ => True) (groupKind start r) := by
  unfold groupKind
  refine (keeps_accept _ r hr).step ?_
  rintro marked r₁ hmarked hr₁ -
  split
  · exact ⟨hr₁, trivial⟩
  next hmark =>
  obtain rfl : marked = true := by simpa using hmark
  rw [rest_of_accept hmarked] at hbehind
  refine (keeps_take r₁ hr₁).step ?_
  rintro next r₂ htake hr₂ -
  -- Of all that can stand behind the question mark only the flags, which come last, matter to the
  -- rest of the pattern.
  split
  · trivial
  · refine ((keeps_accept _).bind fun named => ?_) r₂ hr₂
    refine .ite ?_ ?_
    · refine (keeps_takeName _ _).bind fun name => ?_
      exact (keeps_checkGroupName _ _).bind fun _ => keeps_pure _
    refine (keeps_accept _).bind fun reference => ?_
    refine .ite (keeps_namedReference.bind fun _ => keeps_pure _) ?_
    refine keeps_take.bind fun next => ?_
    split
    · exact yields_failHere _
    · exact yields_failBack _ _
  · exact ⟨hr₂, trivial⟩
  · exact (keeps_get.bind fun _ => (keeps_skipComment _ _).bind fun _ => keeps_pure _) r₂ hr₂
  · exact ⟨hr₂, trivial⟩
  · exact ⟨hr₂, trivial⟩
  · refine (keeps_take.bind fun next => ?_) r₂ hr₂
    split
    · exact yields_failHere _
    · exact keeps_pure _
    · exact keeps_pure _
    · exact yields_failBack _ _
  · exact (keeps_conditionGroup.bind fun _ => keeps_pure _) r₂ hr₂
  · exact ⟨hr₂, trivial⟩
  · split
    · next hflag =>
      rw [rest_of_take htake] at hbehind
      refine (isSafe_flags hr₂ hflag hbehind).step ?_
      rintro found r₃ - hr₃ -
      split
      · exact ⟨hr₃, trivial⟩
      · exact ⟨hr₃, trivial⟩
    · trivial

theorem keeps_closing (start : Nat) : Keeps whole (closing start) := by
  refine (keeps_accept _).bind fun closed => ?_
  exact .ite (yields_failAt _ _) (keeps_pure _)

/-! ### Repetitions -/

theorem keeps_greediness : Keeps whole greediness := by
  refine (keeps_accept _).bind fun hesitant => ?_
  refine .ite (keeps_pure _) ?_
  refine (keeps_accept _).bind fun possessive => ?_
  exact .ite (keeps_pure _) (keeps_pure _)

theorem keeps_repeatLast (position min : Nat) (max : Option Nat) (items : List Node) :
    Keeps whole (repeatLast position min max items) := by
  unfold repeatLast
  split
  · exact yields_failAt _ _
  · exact yields_failAt _ _
  · exact yields_failAt _ _
  · exact keeps_greediness.bind fun _ => keeps_pure _

theorem keeps_count {digits : List Char} (h : HasCount whole digits) :
    Keeps whole (count digits) := by
  intro r hr
  unfold count
  split
  · exact ⟨hr, trivial⟩
  dsimp only
  split
  · next hlong => exact ⟨digits, h, hlong⟩
  split
  · next hlarge => exact ⟨digits, h, hlarge⟩
  · exact ⟨hr, trivial⟩

/-- How bounds end, from the closing brace on: with the two counts, or back at `r` if there is no
brace. -/
def boundsEnd (r : Reading) (low high : List Char) : Reader (Option (Nat × Option Nat)) := do
  if !(← accept '\x7d') then
    set r
    return none
  let min ← count low
  let max ← count high
  if let some m := max then
    if m < min.getD 0 then failAt .minExceedsMax r.offset
  return some (min.getD 0, max)

/-- The last part is the same whether there is a second count or the first one stands for both. -/
theorem isSafe_boundsEnd (low high : List Char) {r r₃ : Reading} (hr : r.IsWithin whole)
    (hr₃ : r₃.IsWithin whole)
    (hcounts : ∀ r₄, r₃.rest = .plain '\x7d' :: r₄ → HasCount whole low ∧ HasCount whole high) :
    IsSafe whole (fun _ => True) (boundsEnd r low high r₃) := by
  unfold boundsEnd
  refine (keeps_accept _ r₃ hr₃).step ?_
  rintro closed r₄ hclosed hr₄ -
  split
  · exact ⟨hr, trivial⟩
  next hclose =>
  obtain rfl : closed = true := by simpa using hclose
  obtain ⟨hlowCount, hhighCount⟩ := hcounts _ (rest_of_accept hclosed)
  refine ((keeps_count hlowCount).bind fun min => ?_) r₄ hr₄
  refine (keeps_count hhighCount).bind fun max => ?_
  dsimp only
  split
  · exact .check (yields_failAt _ _) (keeps_pure _)
  · exact keeps_pure _

theorem isSafe_bounds {r : Reading} (hr : r.IsWithin whole)
    (hbrace : .plain '\x7b' :: r.rest <:+ whole) : IsSafe whole (fun _ => True) (bounds r) := by
  unfold bounds
  refine (keeps_get r hr).step ?_
  rintro before _ ⟨⟩ - -
  split
  · exact ⟨hr, trivial⟩
  refine (keeps_takeWhile _ _ r hr).step ?_
  rintro low r₁ hlow hr₁ -
  obtain ⟨hlowDecimal, hrest⟩ := rest_of_takeWhile hlow
  rw [hrest] at hbrace
  refine (keeps_accept _ r₁ hr₁).step ?_
  rintro comma r₂ hcomma hr₂ -
  -- Behind a comma there is a second count. Without a comma the one count is both bounds.
  split
  · next hsecond =>
    subst hsecond
    rw [rest_of_accept hcomma] at hbrace
    refine (keeps_takeWhile _ _ r₂ hr₂).step ?_
    rintro high r₃ hhigh hr₃ -
    obtain ⟨hhighDecimal, hrest₂⟩ := rest_of_takeWhile hhigh
    refine isSafe_boundsEnd low high hr hr₃ fun r₄ hbehind => ?_
    have htext : boundsText low (some high) <:+: whole := by
      refine List.IsInfix.trans ?_ hbrace.isInfix
      exact ⟨[], r₄, by simp [boundsText, hrest₂, hbehind]⟩
    exact ⟨⟨hlowDecimal, low, _, htext, .inl rfl⟩, ⟨hhighDecimal, low, _, htext, .inr rfl⟩⟩
  · next hsingle =>
    obtain rfl : comma = false := by simpa using hsingle
    obtain rfl : r₂ = r₁ := eq_of_accept hcomma
    refine isSafe_boundsEnd low low hr hr₂ fun r₄ hbehind => ?_
    have htext : boundsText low none <:+: whole := by
      refine List.IsInfix.trans ?_ hbrace.isInfix
      exact ⟨[], r₄, by simp [boundsText, hbehind]⟩
    have hlowCount : HasCount whole low := ⟨hlowDecimal, low, _, htext, .inl rfl⟩
    exact ⟨hlowCount, hlowCount⟩

/-! ### Items -/

/-! Choices, sequences and groups call each other with less fuel. Where a brace or a parenthesis has
just been taken, it is still known that it stood in front, and the bounds and the kind of the group
need that. -/

mutual

theorem keeps_alternatives : ∀ (fuel : Nat) (verbose nested : Bool) (found : List (List Node)),
    Keeps whole (alternatives fuel verbose nested found)
  | 0, _, _, _ => keeps_pure _
  | fuel + 1, verbose, nested, found => by
    unfold alternatives
    refine (keeps_sequence fuel _ _ _).bind fun items => ?_
    refine (keeps_accept _).bind fun more => ?_
    refine .ite ?_ (keeps_pure _)
    exact keeps_get.bind fun r => keeps_alternatives fuel _ _ _

theorem keeps_sequence : ∀ (fuel : Nat) (verbose first : Bool) (items : List Node),
    Keeps whole (sequence fuel verbose first items)
  | 0, _, _, _ => keeps_pure _
  | fuel + 1, verbose, first, items => by
    have ih := fun first items => keeps_sequence fuel verbose first items
    intro r hr
    unfold sequence
    -- What is taken is the symbol that was seen before.
    refine (keeps_peek r hr).step ?_
    rintro _ _ ⟨⟩ - -
    generalize hhead : r.rest.head? = head
    split
    · exact ⟨hr, trivial⟩
    · exact ⟨hr, trivial⟩
    · exact ⟨hr, trivial⟩
    next s _ _ =>
    refine (keeps_tell r hr).step ?_
    rintro start _ ⟨⟩ - -
    refine (keeps_take r hr).step ?_
    rintro o r' htake hr' -
    obtain ⟨rfl, -⟩ := eq_of_take htake
    have hbehind : s :: r'.rest <:+ whole := rest_of_take (hhead ▸ htake) ▸ hr.rest
    cases s with
    | escaped c => exact ((keeps_itemEscape _ _).bind fun _ => ih _ _) r' hr'
    | plain c =>
      dsimp only
      split
      · exact ih _ _ r' hr'
      split
      · exact (keeps_get.bind fun _ => (keeps_skipLine _).bind fun _ => ih _ _) r' hr'
      split
      · exact (keeps_characterSet.bind fun _ => ih _ _) r' hr'
      · exact ih _ _ r' hr'
      · exact ih _ _ r' hr'
      · exact ih _ _ r' hr'
      · exact ((keeps_repeatLast _ _ _ _).bind fun _ => ih _ _) r' hr'
      · exact ((keeps_repeatLast _ _ _ _).bind fun _ => ih _ _) r' hr'
      · exact ((keeps_repeatLast _ _ _ _).bind fun _ => ih _ _) r' hr'
      · refine (isSafe_bounds hr' hbehind).step ?_
        rintro found r'' - hr'' -
        split
        · exact ih _ _ r'' hr''
        · exact ((keeps_repeatLast _ _ _ _).bind fun _ => ih _ _) r'' hr''
      · refine (isSafe_groupKind _ hr' hbehind).step ?_
        rintro kind r'' - hr'' -
        split
        · exact ih _ _ r'' hr''
        · refine Yields.check (yields_failAt _ _) ?_ r'' hr''
          exact keeps_get.bind fun r => keeps_sequence fuel _ _ _
        · exact ((keeps_group fuel _ _ _).bind fun _ => ih _ _) r'' hr''
      · exact ih _ _ r' hr'

theorem keeps_group : ∀ (fuel start : Nat) (verbose : Bool) (kind : GroupKind),
    Keeps whole (group fuel start verbose kind)
  | 0, _, _, _ => by
    unfold group
    exact keeps_pure _
  | fuel + 1, start, verbose, kind => by
    have ih := fun verbose => keeps_alternatives fuel verbose true []
    cases kind with
    | done item => exact keeps_pure _
    | «global» => exact keeps_pure _
    | capture name =>
      refine (keeps_openGroup _).bind fun index => ?_
      refine (ih _).bind fun body => ?_
      refine (keeps_closing _).bind fun _ => ?_
      exact (keeps_closeGroup _ _).bind fun _ => keeps_pure _
    | plain on off => exact (ih _).bind fun _ => (keeps_closing _).bind fun _ => keeps_pure _
    | atomic => exact (ih _).bind fun _ => (keeps_closing _).bind fun _ => keeps_pure _
    | look ahead negated =>
      unfold group
      refine keeps_get.bind fun r => ?_
      refine .check (keeps_modify fun r hr => ⟨hr.rest, hr.flags⟩) ?_
      refine (ih _).bind fun body => ?_
      refine .check (keeps_modify fun r hr => ⟨hr.rest, hr.flags⟩) ?_
      exact (keeps_closing _).bind fun _ => keeps_pure _
    | conditional g =>
      -- A condition has one branch or two; a third one is complained about.
      refine (keeps_sequence fuel _ _ _).bind fun yes => ?_
      refine (keeps_accept _).bind fun bar => ?_
      refine .ite ?_ ?_
      · refine (keeps_sequence fuel _ _ _).bind fun no => ?_
        refine keeps_peek.bind fun next => ?_
        refine .check (yields_failHere _) ?_
        refine (keeps_pure _).bind fun no => ?_
        exact (keeps_closing _).bind fun _ => keeps_pure _
      · refine (keeps_pure _).bind fun no => ?_
        exact (keeps_closing _).bind fun _ => keeps_pure _

end

/-! ### Whole patterns -/

theorem keeps_pattern : Keeps whole pattern := by
  refine keeps_get.bind fun start => ?_
  refine (keeps_alternatives _ _ _ _).bind fun nodes => ?_
  refine yields_get.bind fun r hr => ?_
  -- Both classes are chosen only if the letters for both are in the pattern.
  have hconflict : (r.flags.ascii && r.flags.wide) = true → Explains whole .conflictingFlags := by
    intro h
    obtain ⟨hascii, hwide⟩ := Bool.and_eq_true_iff.mp h
    exact ⟨hr.flags.ascii hascii, hr.flags.wide hwide⟩
  by_cases h : (r.flags.ascii && r.flags.wide) = true
  · rw [if_pos h]
    exact fun _ _ => hconflict h
  rw [if_neg h]
  refine .check (yields_failHere _) ?_
  split
  · exact fun _ _ => trivial
  · exact keeps_pure _

/-! ### Operations -/

/-- Failures, if any, have a text of their own. -/
def Complains (x : Except Error α) : Prop :=
  ∀ e, x = .error e → e.IsMalformed

theorem complains_ok (a : α) : Complains (.ok a : Except Error α) :=
  nofun

theorem Complains.bind {x : Except Error α} {f : α → Except Error β} (hx : Complains x)
    (hf : ∀ a, Complains (f a)) : Complains (x >>= f) := by
  cases x with
  | error e => exact fun _ h => hx _ (by cases h; rfl)
  | ok a => exact hf a

theorem Complains.check {c : Prop} [Decidable c] {problem : Problem} {f : Unit → Except Error α}
    (hf : Complains (f ())) :
    Complains (if c then Except.error (.malformed problem none) >>= f else f ()) := by
  split
  · rintro _ ⟨⟩
    trivial
  · exact hf

mutual

theorem complains_ops (groups : List Width) (f : Flags) : ∀ n : Node, Complains (n.ops groups f)
  | .char _ => complains_ok _
  | .notChar _ => complains_ok _
  | .any => complains_ok _
  | .set .. => complains_ok _
  | .at _ => complains_ok _
  | .branch alternatives =>
    (complains_opsAny groups f alternatives).bind fun _ => complains_ok _
  | .group none on off body => complains_opsAll groups (f.within on off) body
  | .group (some _) on off body =>
    (complains_opsAll groups (f.within on off) body).bind fun _ => complains_ok _
  | .repeat _ _ _ body => by
    unfold Node.ops
    exact .check ((complains_opsAll groups f body).bind fun _ => complains_ok _)
  | .atomic body => (complains_opsAll groups f body).bind fun _ => complains_ok _
  | .look true _ body => (complains_opsAll groups f body).bind fun _ => complains_ok _
  | .look false _ body => by
    unfold Node.ops
    exact .check (.check ((complains_opsAll groups f body).bind fun _ => complains_ok _))
  | .reference _ => complains_ok _
  | .conditional _ yes no =>
    (complains_opsAll groups f yes).bind fun _ =>
      (complains_opsAll groups f no).bind fun _ => complains_ok _

theorem complains_opsAll (groups : List Width) (f : Flags) :
    ∀ nodes : List Node, Complains (opsAll groups f nodes)
  | [] => complains_ok _
  | n :: rest =>
    (complains_ops groups f n).bind fun _ =>
      (complains_opsAll groups f rest).bind fun _ => complains_ok _

theorem complains_opsAny (groups : List Width) (f : Flags) :
    ∀ alternatives : List (List Node), Complains (opsAny groups f alternatives)
  | [] => complains_ok _
  | alternative :: rest =>
    (complains_opsAll groups f alternative).bind fun _ =>
      (complains_opsAny groups f rest).bind fun _ => complains_ok _

end

theorem complains_ofNodes (nodes : List Node) (flags : Flags) (groups : List Width) :
    Complains (Program.ofNodes nodes flags groups) :=
  (complains_opsAll groups flags nodes).bind fun _ => complains_ok _

/-! ### Texts -/

theorem Error.IsMalformed.explains {e : Error} (h : e.IsMalformed) : Explains whole e := by
  cases e <;> trivial

theorem parse_error {text : List Char} {e : Error} (h : parse text = .error e) :
    Explains (symbols text).1 e := by
  unfold parse Reading.start at h
  dsimp only at h
  split at h
  · cases h
    trivial
  · have hstart : Reading.IsWithin (symbols text).1
        { rest := (symbols text).1, offset := 0, dangling := (symbols text).2 } :=
      ⟨List.suffix_refl _, Flags.areIn_none⟩
    have hsafe := keeps_pattern _ hstart
    change (pattern _).bind _ = _ at h
    cases hpattern : pattern
        { rest := (symbols text).1, offset := 0, dangling := (symbols text).2 } with
    | ok result =>
      rw [hpattern] at h
      cases h
    | error x =>
      rw [hpattern] at h hsafe
      cases h
      exact hsafe

/-- A text that is no pattern has in it what it fails for. -/
theorem ofText_error {source : String} {e : Error} (h : ofText source = .error e) :
    Explains (symbols source.toList).1 e := by
  have hprogram : program? source = .error e := by
    unfold ofText at h
    split at h
    · cases h
    · next hprogram =>
      cases h
      exact hprogram
  rw [program?] at hprogram
  cases hparse : parse source.toList with
  | error x =>
    rw [hparse] at hprogram
    cases hprogram
    exact parse_error hparse
  | ok parsed =>
    rw [hparse] at hprogram
    exact (complains_ofNodes _ _ _ _ hprogram).explains

/-- Counts in the pattern can be counted to, and its flags do not ask for two classes at once. -/
structure IsModest (source : String) : Prop where
  counts : ∀ digits, HasCount (symbols source.toList).1 digits →
    digits.length ≤ Integer.maxDecimalDigits ∧ digitsValue 10 digits < countLimit
  flags : ¬ (HasFlag (symbols source.toList).1 'a' ∧ HasFlag (symbols source.toList).1 'u')

/-- A text with modest counts and flags is a pattern, or there is something to say about it. -/
theorem IsModest.isMalformed {source : String} {e : Error} (hs : IsModest source)
    (he : ofText source = .error e) : e.IsMalformed := by
  have hexplains := ofText_error he
  cases e with
  | malformed problem position => trivial
  | countTooLarge =>
    obtain ⟨digits, hdigits, hlarge⟩ := hexplains
    exact absurd (hs.counts digits hdigits).2 (Nat.not_lt.mpr hlarge)
  | countTooLong =>
    obtain ⟨digits, hdigits, hlong⟩ := hexplains
    exact absurd (hs.counts digits hdigits).1 (Nat.not_le.mpr hlong)
  | conflictingFlags => exact absurd hexplains hs.flags

end Coffer.Pattern
