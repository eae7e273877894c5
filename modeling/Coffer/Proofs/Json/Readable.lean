import Coffer.Proofs.Json.RoundTrip

/-!
What reading can give. Every value that comes out of the reader is one that the printer writes in a
form from which it is read again: digits, floating-point numbers and keys are in order
(`readable_of_read`).
-/

namespace Coffer.Json

/-! ### Numbers -/

theorem natOfDigits_lt {cs : List Char} (h : AllDigits cs) : natOfDigits cs < 10 ^ cs.length := by
  rw [natOfDigits_eq]
  induction cs using List.reverseRecOn with
  | nil => simp
  | append_singleton cs c ih =>
    have hc := h c (List.mem_append_right _ List.mem_cons_self)
    have hlt := ih fun d hd => h d (List.mem_append_left _ hd)
    have hval : c.toNat - '0'.toNat ≤ 9 := by
      simp only [isDigit, Bool.and_eq_true, decide_eq_true_eq] at hc
      have h9 : c.toNat ≤ '9'.toNat := hc.2
      simp at h9 ⊢
      omega
    rw [Nat.ofDigitChars_append, Nat.ofDigitChars_cons, Nat.ofDigitChars_nil, List.length_append,
      List.length_singleton, Nat.pow_succ]
    omega

theorem allDigits_takeWhile (cs : List Char) : AllDigits (cs.takeWhile isDigit) :=
  fun _ hc => (List.all_eq_true.mp List.all_takeWhile) _ hc

theorem allDigits_of_whole? {input ds rest : List Char} (h : whole? input = some (ds, rest)) :
    AllDigits ds := by
  unfold whole? at h
  split at h
  · cases h
    simp [AllDigits, isDigit]
  · dsimp only at h
    split at h
    · cases h
    · cases h
      exact allDigits_takeWhile _

theorem readable_of_number? {negative : Bool} {input rest : List Char} {v : Json}
    (h : number? negative input = some (v, rest)) : Readable v := by
  unfold number? at h
  cases hwhole : whole? input with
  | none => rw [hwhole] at h; cases h
  | some wr =>
    obtain ⟨ds, r⟩ := wr
    rw [hwhole] at h
    simp only [Option.bind_eq_bind, Option.bind_some] at h
    split at h
    · split at h
      · cases h
      · next hlen =>
        cases h
        have hlt := natOfDigits_lt (allDigits_of_whole? hwhole)
        have hpow : 10 ^ ds.length ≤ 10 ^ maxIntDigits :=
          Nat.pow_le_pow_right (by omega) (Nat.not_lt.mp hlen)
        rw [Readable]
        split <;> omega
    · cases h
      exact Binary64.canonical_ofDecimal _ _ _

/-! ### Elements -/

def Token.Readable : Token → Prop
  | .atom v => v.Readable
  | _ => True

theorem readable_of_word? {input rest : List Char} {v : Json} (h : word? input = some (v, rest)) :
    Readable v := by
  have hall : ∀ m ∈ words, Readable m.2 := by
    simp only [words, List.forall_mem_cons]
    exact ⟨trivial, trivial, trivial, trivial, trivial, trivial, List.forall_mem_nil _⟩
  obtain ⟨m, hm, hv⟩ := List.exists_of_findSome?_eq_some h
  dsimp only at hv
  split at hv
  · have hmv : m.2 = v := (Prod.mk.inj (Option.some.inj hv)).1
    exact hmv ▸ hall m hm
  · cases hv

theorem readable_of_next? {input rest : List Char} {t : Token}
    (h : next? input = some (t, rest)) : t.Readable := by
  unfold next? at h
  split at h
  iterate 6 (cases h; trivial)
  · obtain ⟨x, -, hx⟩ := Option.map_eq_some_iff.mp h
    cases hx
    trivial
  · split at h
    · next hword =>
      cases h
      exact readable_of_word? hword
    · split at h
      · obtain ⟨⟨v, r⟩, hnum, hx⟩ := Option.map_eq_some_iff.mp h
        cases hx
        exact readable_of_number? hnum
      · obtain ⟨⟨v, r⟩, hnum, hx⟩ := Option.map_eq_some_iff.mp h
        cases hx
        exact readable_of_number? hnum

theorem readable_of_elements : ∀ (budget : Nat) (input : List Char) (ts : List Token),
    elements budget input = some ts → ∀ t ∈ ts, t.Readable := by
  intro budget
  induction budget with
  | zero =>
    intro input ts h
    rw [elements] at h
    split at h
    · cases h
      exact List.forall_mem_nil _
    · cases h
  | succ budget ih =>
    intro input ts h
    rw [elements] at h
    split at h
    · cases h
      exact List.forall_mem_nil _
    · dsimp only at h
      split at h
      · next t rest hnext =>
        obtain ⟨us, hus, rfl⟩ := Option.map_eq_some_iff.mp h
        exact List.forall_mem_cons.mpr ⟨readable_of_next? hnext, ih rest us hus⟩
      · cases h

/-! ### Members -/

theorem keys_put (k : String) (v : Json) : ∀ ms : List (String × Json),
    (put k v ms).map Prod.fst =
      if k ∈ ms.map Prod.fst then ms.map Prod.fst else ms.map Prod.fst ++ [k]
  | [] => by simp [put]
  | (l, w) :: ms => by
    have ih := keys_put k v ms
    rw [put]
    by_cases hl : l = k
    · subst hl
      simp
    · have hk : k ≠ l := fun h => hl h.symm
      rw [if_neg hl, List.map_cons, ih, List.map_cons]
      by_cases hmem : k ∈ ms.map Prod.fst
      · rw [if_pos hmem, if_pos (List.mem_cons_of_mem _ hmem)]
      · rw [if_neg hmem, if_neg (by simp [hk, hmem]), List.cons_append]

theorem mem_put {k : String} {v : Json} {m : String × Json} : ∀ {ms : List (String × Json)},
    m ∈ put k v ms → m = (k, v) ∨ m ∈ ms
  | [], h => by simpa [put] using h
  | (l, w) :: ms, h => by
    rw [put] at h
    split at h
    · rcases List.mem_cons.mp h with h | h
      · exact .inl h
      · exact .inr (List.mem_cons_of_mem _ h)
    · rcases List.mem_cons.mp h with h | h
      · exact .inr (h ▸ List.mem_cons_self)
      · exact (mem_put h).imp id (List.mem_cons_of_mem _)

theorem nodup_keys_put {ms : List (String × Json)} (hnodup : (ms.map Prod.fst).Nodup) (key : String)
    (v : Json) : ((put key v ms).map Prod.fst).Nodup := by
  rw [keys_put]
  split
  · exact hnodup
  · next hnot =>
    refine List.nodup_append.mpr ⟨hnodup, by simp, ?_⟩
    rintro k hk _ hk' rfl
    exact hnot (List.mem_singleton.mp hk' ▸ hk)

theorem readable_foldl_put {ms acc : List (String × Json)} (hms : ∀ m ∈ ms, Readable m.2)
    (hnodup : (acc.map Prod.fst).Nodup) (hacc : ∀ m ∈ acc, Readable m.2) :
    ((ms.foldl (fun acc m => put m.1 m.2 acc) acc).map Prod.fst).Nodup ∧
      ∀ m ∈ ms.foldl (fun acc m => put m.1 m.2 acc) acc, Readable m.2 := by
  induction ms generalizing acc with
  | nil => exact ⟨hnodup, hacc⟩
  | cons m ms ih =>
    obtain ⟨hm, hms⟩ := List.forall_mem_cons.mp hms
    refine ih hms (nodup_keys_put hnodup m.1 m.2) ?_
    intro p hp
    rcases mem_put hp with rfl | hp
    · exact hm
    · exact hacc p hp

theorem readable_ofMembers {ms : List (String × Json)} (h : ∀ m ∈ ms, Readable m.2) :
    Readable (ofMembers ms) := by
  rw [ofMembers, Readable, readableMembers_iff]
  exact readable_foldl_put h List.nodup_nil (List.forall_mem_nil _)

/-! ### Values -/

/-- Whether all values in an open array or object are readable. -/
def Frame.Readable : Frame → Prop
  | .array items => ∀ v ∈ items, v.Readable
  | .object members _ => ∀ m ∈ members, m.2.Readable

def Expect.Readable : Expect → Prop
  | .key members | .colon members _ => ∀ m ∈ members, m.2.Readable
  | .after v => v.Readable
  | .value | .item | .member => True

theorem readable_arr {items : List Json} (h : ∀ v ∈ items, v.Readable) : Readable (.arr items) := by
  rw [Readable, readableItems_iff]
  exact h

theorem readable_of_assemble (stack : List Frame) (ex : Expect) (ts : List Token) (v : Json)
    (h : assemble stack ex ts = some v) (hstack : ∀ f ∈ stack, f.Readable) (hex : ex.Readable)
    (hts : ∀ t ∈ ts, t.Readable) : v.Readable := by
  fun_induction assemble stack ex ts with
  | case1 w =>
    -- Nothing is open any more, and this is the value.
    cases h
    exact hex
  | case2 => cases h
  | case3 stack w ts ih | case6 stack w ts ih =>
    -- A value that is a single element.
    obtain ⟨ht, hts⟩ := List.forall_mem_cons.mp hts
    exact ih h hstack ht hts
  | case4 stack ts ih | case7 stack ts ih =>
    -- An array opens: there are no items of it yet.
    obtain ⟨-, hts⟩ := List.forall_mem_cons.mp hts
    exact ih h (List.forall_mem_cons.mpr ⟨nofun, hstack⟩) trivial hts
  | case5 stack ts ih | case8 stack ts ih =>
    -- An object opens.
    obtain ⟨-, hts⟩ := List.forall_mem_cons.mp hts
    exact ih h hstack trivial hts
  | case9 items stack ts ih =>
    -- An array closes before an item comes.
    obtain ⟨hf, hstack⟩ := List.forall_mem_cons.mp hstack
    obtain ⟨-, hts⟩ := List.forall_mem_cons.mp hts
    exact ih h hstack (readable_arr fun v hv => hf v (List.mem_reverse.mp hv)) hts
  | case10 stack k ts ih =>
    -- The first key of an object.
    obtain ⟨-, hts⟩ := List.forall_mem_cons.mp hts
    exact ih h hstack nofun hts
  | case11 stack ts ih =>
    -- An object closes before a key comes.
    obtain ⟨-, hts⟩ := List.forall_mem_cons.mp hts
    exact ih h hstack ⟨List.nodup_nil, trivial⟩ hts
  | case12 stack members k ts ih =>
    -- A further key.
    obtain ⟨-, hts⟩ := List.forall_mem_cons.mp hts
    exact ih h hstack hex hts
  | case13 stack members k ts ih =>
    -- A colon: the members so far are kept while the value is read.
    obtain ⟨-, hts⟩ := List.forall_mem_cons.mp hts
    exact ih h (List.forall_mem_cons.mpr ⟨hex, hstack⟩) trivial hts
  | case14 items stack w ts ih =>
    -- Behind an item, a comma or the end of the array.
    obtain ⟨hf, hstack⟩ := List.forall_mem_cons.mp hstack
    obtain ⟨-, hts⟩ := List.forall_mem_cons.mp hts
    have hf' : Frame.Readable (.array (w :: items)) := List.forall_mem_cons.mpr ⟨hex, hf⟩
    exact ih h (List.forall_mem_cons.mpr ⟨hf', hstack⟩) trivial hts
  | case15 items stack w ts ih =>
    obtain ⟨hf, hstack⟩ := List.forall_mem_cons.mp hstack
    obtain ⟨-, hts⟩ := List.forall_mem_cons.mp hts
    have hall : ∀ v ∈ w :: items, v.Readable := List.forall_mem_cons.mpr ⟨hex, hf⟩
    exact ih h hstack (readable_arr fun v hv => hall v (List.mem_reverse.mp hv)) hts
  | case16 members k stack w ts ih =>
    -- Behind a member, a comma or the end of the object.
    obtain ⟨hf, hstack⟩ := List.forall_mem_cons.mp hstack
    obtain ⟨-, hts⟩ := List.forall_mem_cons.mp hts
    exact ih h hstack (List.forall_mem_cons.mpr ⟨hex, hf⟩) hts
  | case17 members k stack w ts ih =>
    obtain ⟨hf, hstack⟩ := List.forall_mem_cons.mp hstack
    obtain ⟨-, hts⟩ := List.forall_mem_cons.mp hts
    have hall : ∀ m ∈ (k, w) :: members, m.2.Readable := List.forall_mem_cons.mpr ⟨hex, hf⟩
    exact ih h hstack (readable_ofMembers fun m hm => hall m (List.mem_reverse.mp hm)) hts
  | case18 => cases h

/-- Every value that is read is readable. -/
theorem readable_of_read {input : List Char} {v : Json} (h : read input = some v) : v.Readable := by
  rw [read] at h
  cases hts : elements input.length input with
  | none => rw [hts] at h; cases h
  | some ts =>
    rw [hts] at h
    exact readable_of_assemble [] .value ts v h (List.forall_mem_nil _) trivial
      (readable_of_elements _ _ _ hts)

theorem Readable.get? {v m : Json} {key : String} (h : v.Readable) (hm : v.get? key = some m) :
    m.Readable := by
  cases v with
  | obj members =>
    rw [Readable, readableMembers_iff] at h
    obtain ⟨l, r, rfl, -⟩ := List.lookup_eq_some_iff.mp hm
    exact h.2 (key, m) (by simp)
  | null | bool _ | int _ | float _ | str _ | arr _ => cases hm

end Coffer.Json
