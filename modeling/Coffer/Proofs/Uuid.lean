import Coffer.Proofs.Cut
import Coffer.Uuid
import Mathlib.Algebra.Group.Nat.Defs

/-!
The written form of an id can be read back: `ofText?_text`.
-/

namespace Coffer.Uuid

/-! ### Hexadecimal digits -/

/-- A lower-case hexadecimal digit. -/
def IsHex (c : Char) : Prop :=
  ∃ n < 16, c = Text.hexDigit n

/-- A hexadecimal digit is read as its value, and is none of the characters that mean something else
in an id or a number. -/
theorem hexDigit_spec : ∀ n < 16, Integer.digit? 16 (Text.hexDigit n) = some n ∧
    Integer.isPadding (Text.hexDigit n) = false ∧ isBrace (Text.hexDigit n) = false ∧
    Text.hexDigit n ∉ ['-', '+', '_', 'x', 'X', 'u'] := by
  decide +kernel

theorem length_hexPadded (width n : Nat) : (Text.hexPadded width n).length = width := by
  induction width generalizing n with
  | zero => rfl
  | succ width ih => rw [Text.hexPadded, List.length_append, ih]; rfl

theorem isHex_of_mem_hexPadded {width n : Nat} {c : Char} (h : c ∈ Text.hexPadded width n) :
    IsHex c := by
  induction width generalizing n with
  | zero => cases h
  | succ width ih =>
    rw [Text.hexPadded, List.mem_append, List.mem_singleton] at h
    obtain h | rfl := h
    · exact ih h
    · exact ⟨n % 16, Nat.mod_lt n (by decide), rfl⟩

def hexValues : Nat → Nat → List Nat
  | 0, _ => []
  | width + 1, n => hexValues width (n / 16) ++ [n % 16]

theorem foldl_hexValues {width n : Nat} (h : n < 16 ^ width) :
    (hexValues width n).foldl (fun v d => v * 16 + d) 0 = n := by
  induction width generalizing n with
  | zero => exact (Nat.lt_one_iff.mp h).symm
  | succ width ih =>
    rw [Nat.pow_succ] at h
    rw [hexValues, List.foldl_append, ih (by omega)]
    simp only [List.foldl]
    omega

theorem mapM_hexPadded (width n : Nat) :
    (Text.hexPadded width n).mapM (Integer.digit? 16) = some (hexValues width n) := by
  induction width generalizing n with
  | zero => rfl
  | succ width ih =>
    rw [Text.hexPadded, List.mapM_append, ih, List.mapM_cons,
      (hexDigit_spec (n % 16) (Nat.mod_lt n (by decide))).1]
    rfl

theorem IsHex.spec {c : Char} (h : IsHex c) : Integer.isPadding c = false ∧ isBrace c = false ∧
    c ∉ ['-', '+', '_', 'x', 'X', 'u'] := by
  obtain ⟨n, hn, rfl⟩ := h
  exact (hexDigit_spec n hn).2

theorem digits?_eq_mapM {cs : List Char} (hne : cs ≠ []) (h : ∀ c ∈ cs, IsHex c) :
    Integer.digits? 16 cs = cs.mapM (Integer.digit? 16) := by
  induction cs with
  | nil => exact absurd rfl hne
  | cons c cs ih =>
    cases cs with
    | nil =>
      rw [Integer.digits?, List.mapM_cons]
      cases Integer.digit? 16 c <;> rfl
    | cons d cs =>
      have hd := (h d (by simp)).spec.2.2
      have hunder : d ≠ '_' := by
        rintro rfl
        exact hd (by simp)
      have hrest := ih (by simp) (fun c hc => h c (List.mem_cons_of_mem _ hc))
      rw [Integer.digits?, hrest]
      · exact List.mapM_cons.symm
      · exact fun heq => List.cons_ne_nil _ _ heq
      · exact fun rest heq => hunder (List.cons.inj heq).1

/-! ### Ids -/

theorem removeAll_of_head {p : Char} {ps cs : List Char} (h : p ∉ cs) :
    removeAll (p :: ps) cs = cs := by
  induction cs with
  | nil => rw [removeAll]
  | cons c cs ih =>
    have hc : p ≠ c := fun heq => h (heq ▸ List.mem_cons_self ..)
    have hprefix : ¬ ((p :: ps).isPrefixOf (c :: cs) = true ∧ p :: ps ≠ []) := by
      simp [List.isPrefixOf, hc]
    rw [removeAll, if_neg hprefix, ih (fun hmem => h (List.mem_cons_of_mem _ hmem))]

theorem dropWhile_of_forall {p : Char → Bool} {cs : List Char} (h : ∀ c ∈ cs, p c = false) :
    cs.dropWhile p = cs :=
  Cut.dropWhile_eq_self fun c hc => h c (List.mem_of_mem_head? hc)

theorem dropBaseMark_of_isHex {cs : List Char} (h : ∀ c ∈ cs, IsHex c) :
    Integer.dropBaseMark 16 cs = cs := by
  unfold Integer.dropBaseMark
  split
  · next x rest =>
    have hx := (h x (by simp)).spec.2.2
    rw [if_neg]
    rintro ⟨-, rfl | rfl⟩
    · exact hx (by simp)
    · exact hx (by simp)
  · rfl

theorem magnitude?_hexPadded {width n : Nat} (hwidth : 0 < width) (h : n < 16 ^ width) :
    Integer.magnitude? 16 (Text.hexPadded width n) = some n := by
  have hhex : ∀ c ∈ Text.hexPadded width n, IsHex c := fun c hc => isHex_of_mem_hexPadded hc
  have hne : Text.hexPadded width n ≠ [] := by
    rw [← List.length_pos_iff, length_hexPadded]
    exact hwidth
  rw [Integer.magnitude?, dropBaseMark_of_isHex hhex, digits?_eq_mapM hne hhex, mapM_hexPadded]
  simp only [Option.bind_eq_bind, Option.bind_some]
  rw [if_neg (by simp), foldl_hexValues h]

theorem integer_ofText?_hexPadded {width n : Nat} (hwidth : 0 < width) (h : n < 16 ^ width) :
    Integer.ofText? 16 (Text.hexPadded width n) = some (n : Int) := by
  have hhex : ∀ c ∈ Text.hexPadded width n, IsHex c := fun c hc => isHex_of_mem_hexPadded hc
  have hmagnitude := magnitude?_hexPadded hwidth h
  have hpad : ∀ c ∈ Text.hexPadded width n, Integer.isPadding c = false :=
    fun c hc => (hhex c hc).spec.1
  unfold Integer.ofText?
  rw [dropWhile_of_forall hpad, dropWhile_of_forall (by simpa using hpad), List.reverse_reverse]
  split
  · next heq =>
    have hc := (hhex '-' (by rw [heq]; simp)).spec.2.2
    exact absurd (by simp) hc
  · next heq =>
    have hc := (hhex '+' (by rw [heq]; simp)).spec.2.2
    exact absurd (by simp) hc
  · rw [hmagnitude]
    rfl

def groups (h : List Char) : List Char :=
  h.take 8 ++ '-' :: (h.drop 8).take 4 ++ '-' :: (h.drop 12).take 4 ++
    '-' :: (h.drop 16).take 4 ++ '-' :: h.drop 20

theorem filter_groups {h : List Char} (hhex : ∀ c ∈ h, IsHex c) :
    (groups h).filter (· != '-') = h := by
  have hkeep : ∀ g : List Char, (∀ c ∈ g, c ∈ h) → g.filter (· != '-') = g := by
    intro g hg
    refine List.filter_eq_self.mpr fun c hc => ?_
    have hc := (hhex c (hg c hc)).spec.2.2
    rw [bne_iff_ne]
    rintro rfl
    exact hc (by simp)
  have hdash : ∀ g : List Char, ('-' :: g).filter (· != '-') = g.filter (· != '-') :=
    fun g => List.filter_cons_of_neg (by decide)
  simp only [groups, List.filter_append, hdash]
  rw [hkeep _ (fun c hc => List.mem_of_mem_take hc),
    hkeep _ (fun c hc => List.mem_of_mem_drop (List.mem_of_mem_take hc)),
    hkeep _ (fun c hc => List.mem_of_mem_drop (List.mem_of_mem_take hc)),
    hkeep _ (fun c hc => List.mem_of_mem_drop (List.mem_of_mem_take hc)),
    hkeep _ (fun c hc => List.mem_of_mem_drop hc)]
  have hjoin : ∀ k, (h.drop k).take 4 ++ h.drop (k + 4) = h.drop k := by
    intro k
    rw [← List.drop_drop, List.take_append_drop]
  rw [List.append_assoc, List.append_assoc, List.append_assoc, hjoin 16, hjoin 12, hjoin 8,
    List.take_append_drop]

theorem mem_groups {h : List Char} {c : Char} (hc : c ∈ groups h) : c ∈ h ∨ c = '-' := by
  simp only [groups, List.mem_append, List.mem_cons] at hc
  obtain (((hc | rfl | hc) | rfl | hc) | rfl | hc) | rfl | hc := hc
  · exact .inl (List.mem_of_mem_take hc)
  · exact .inr rfl
  · exact .inl (List.mem_of_mem_drop (List.mem_of_mem_take hc))
  · exact .inr rfl
  · exact .inl (List.mem_of_mem_drop (List.mem_of_mem_take hc))
  · exact .inr rfl
  · exact .inl (List.mem_of_mem_drop (List.mem_of_mem_take hc))
  · exact .inr rfl
  · exact .inl (List.mem_of_mem_drop hc)

theorem ofText?_text (u : Uuid) : ofText? u.text = some u := by
  have hhex : ∀ c ∈ Text.hexPadded 32 u.value.toNat, IsHex c :=
    fun c hc => isHex_of_mem_hexPadded hc
  have htext : u.text.toList = groups (Text.hexPadded 32 u.value.toNat) := by
    rw [text, String.toList_ofList]
    rfl
  have hmark : 'u' ∉ groups (Text.hexPadded 32 u.value.toNat) := by
    intro hc
    obtain hc | hc := mem_groups hc
    · exact (hhex 'u' hc).spec.2.2 (by simp)
    · exact absurd hc (by decide)
  have hbrace : ∀ c ∈ groups (Text.hexPadded 32 u.value.toNat), isBrace c = false := by
    intro c hc
    obtain hc | rfl := mem_groups hc
    · exact (hhex c hc).spec.2.1
    · decide
  have hurn : ∀ cs, 'u' ∉ cs → removeAll "urn:".toList cs = cs := fun cs => removeAll_of_head
  have huuid : ∀ cs, 'u' ∉ cs → removeAll "uuid:".toList cs = cs := fun cs => removeAll_of_head
  have hvalue : u.value.toNat < 16 ^ 32 := u.value.isLt
  -- What is removed from other spellings does not occur in this one, except for the dashes.
  rw [ofText?, htext, hurn _ hmark, huuid _ hmark, dropWhile_of_forall hbrace,
    dropWhile_of_forall (by simpa using hbrace), List.reverse_reverse, filter_groups hhex,
    length_hexPadded, if_neg (by decide), integer_ofText?_hexPadded (by decide) hvalue]
  simp only [Option.bind_eq_bind, Option.bind_some, Int.toNat_natCast, BitVec.ofNat_toNat,
    BitVec.setWidth_eq]
  rfl

end Coffer.Uuid
