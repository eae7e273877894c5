import Coffer.Record
import Mathlib.Data.List.Induction
import Mathlib.Data.List.Nodup

/-!
Fields by key. A list of fields with distinct keys is seen as a map from keys to fields: storing a
field changes what is found under its own key, and nothing else.
-/

namespace Coffer

/-! ### Lists by key -/

section Keys

variable {α : Type} {key : α → String}

/-- Of a list with distinct keys, the elements of a key are the one that is found. -/
theorem filter_eq_find?_of_nodup {k : String} : ∀ {xs : List α}, (xs.map key).Nodup →
    xs.filter (fun x => key x = k) = (xs.find? (fun x => key x == k)).toList
  | [], _ => rfl
  | x :: xs, h => by
    obtain ⟨hx, hxs⟩ := List.nodup_cons.mp h
    have ih := filter_eq_find?_of_nodup (k := k) hxs
    by_cases hk : key x = k
    · have hnone : xs.find? (fun x => key x == k) = none := by
        rw [List.find?_eq_none]
        intro y hy hyk
        exact hx (List.mem_map.mpr ⟨y, hy, by rw [hk]; simpa using hyk⟩)
      rw [hnone] at ih
      simp [hk, ih]
    · simp [hk, ih]

/-- An element of the key that was looked up is the one that was found. -/
theorem eq_of_find?_of_nodup {k : String} {xs : List α} {x y : α} (h : (xs.map key).Nodup)
    (hx : xs.find? (fun x => key x == k) = some x) (hy : y ∈ xs) (hk : key y = k) : y = x := by
  have hmem : y ∈ xs.filter (fun x => key x = k) := by simp [hy, hk]
  rw [filter_eq_find?_of_nodup h, hx] at hmem
  simpa using hmem

theorem find?_key_of_nodup {κ : Type} [BEq κ] [LawfulBEq κ] {key : α → κ} {xs : List α} {x : α}
    (h : (xs.map key).Nodup) (hx : x ∈ xs) : xs.find? (fun y => key y == key x) = some x := by
  cases hfind : xs.find? (fun y => key y == key x) with
  | none =>
    have hne := List.find?_eq_none.mp hfind x hx
    simp at hne
  | some y =>
    have hkey : key y = key x := by simpa using List.find?_some hfind
    rw [List.inj_on_of_nodup_map h (List.mem_of_find?_eq_some hfind) hx hkey]

end Keys

/-! ### Fields -/

def fieldKeys (fs : List Field) : List String :=
  fs.map Field.key

def findField (k : String) (fs : List Field) : Option Field :=
  fs.find? (·.key == k)

theorem Record.field?_eq (r : Record) (k : String) : r.field? k = findField k r.fields := rfl

theorem findField_cons (k : String) (f : Field) (fs : List Field) :
    findField k (f :: fs) = if f.key = k then some f else findField k fs := by
  by_cases h : f.key = k
  · simp [findField, h]
  · simp [findField, h]

theorem key_of_findField {k : String} {fs : List Field} {f : Field}
    (h : findField k fs = some f) : f.key = k := by
  simpa using List.find?_some h

theorem findField_eq_none_iff {k : String} {fs : List Field} :
    findField k fs = none ↔ k ∉ fieldKeys fs := by
  simp [findField, fieldKeys]

/-! ### Storing a field -/

theorem findField_storeField (k : String) (f : Field) : ∀ fs : List Field,
    findField k (storeField f fs) = if f.key = k then some f else findField k fs
  | [] => by rw [storeField, findField_cons]
  | g :: fs => by
    have ih := findField_storeField k f fs
    rw [storeField]
    by_cases hg : g.key = f.key
    · rw [if_pos hg, findField_cons, findField_cons, hg]
      by_cases hf : f.key = k
      · rw [if_pos hf, if_pos hf]
      · rw [if_neg hf, if_neg hf, if_neg hf]
    · rw [if_neg hg, findField_cons, ih, findField_cons]
      by_cases hf : f.key = k
      · have hgk : g.key ≠ k := by rw [← hf]; exact hg
        rw [if_neg hgk, if_pos hf, if_pos hf]
      · rw [if_neg hf, if_neg hf]

theorem fieldKeys_storeField (f : Field) : ∀ fs : List Field,
    fieldKeys (storeField f fs) =
      if f.key ∈ fieldKeys fs then fieldKeys fs else fieldKeys fs ++ [f.key]
  | [] => by simp [storeField, fieldKeys]
  | g :: fs => by
    have ih := fieldKeys_storeField f fs
    have hcons : ∀ e : Field, ∀ es, fieldKeys (e :: es) = e.key :: fieldKeys es := fun _ _ => rfl
    rw [storeField]
    by_cases hg : g.key = f.key
    · rw [if_pos hg, hcons, hcons, hg, if_pos List.mem_cons_self]
    · have hg' : f.key ≠ g.key := fun h => hg h.symm
      rw [if_neg hg, hcons, hcons, ih]
      by_cases hf : f.key ∈ fieldKeys fs
      · rw [if_pos hf, if_pos (List.mem_cons_of_mem g.key hf)]
      · rw [if_neg hf, if_neg (by simp [hg', hf]), List.cons_append]

theorem nodup_storeField {f : Field} {fs : List Field} (h : (fieldKeys fs).Nodup) :
    (fieldKeys (storeField f fs)).Nodup := by
  rw [fieldKeys_storeField]
  split
  · exact h
  · next hf =>
    refine List.nodup_append.mpr ⟨h, by simp, ?_⟩
    rintro k hk _ hk' rfl
    exact hf (List.mem_singleton.mp hk' ▸ hk)

theorem storeField_of_not_mem {f : Field} : ∀ {fs : List Field}, f.key ∉ fieldKeys fs →
    storeField f fs = fs ++ [f]
  | [], _ => rfl
  | g :: fs, h => by
    simp only [fieldKeys, List.map_cons, List.mem_cons, not_or] at h
    have hg : g.key ≠ f.key := fun he => h.1 he.symm
    rw [storeField, if_neg hg, storeField_of_not_mem h.2, List.cons_append]

theorem storeField_of_findField {f : Field} : ∀ {fs : List Field}, findField f.key fs = some f →
    storeField f fs = fs
  | [], h => by cases h
  | g :: fs, h => by
    rw [findField_cons] at h
    rw [storeField]
    split at h
    · next hkey =>
      cases h
      rw [if_pos hkey]
    · next hkey => rw [if_neg hkey, storeField_of_findField h]

/-! ### Removing a field -/

theorem findField_filter (k key : String) (fs : List Field) :
    findField k (fs.filter (·.key ≠ key)) = if key = k then none else findField k fs := by
  induction fs with
  | nil => simp [findField]
  | cons f fs ih =>
    by_cases hf : f.key = key
    · simp only [List.filter_cons, hf, ne_eq, not_true_eq_false, decide_false, Bool.false_eq_true,
        if_false] at ih ⊢
      rw [ih, findField_cons, hf]
      split <;> rfl
    · simp only [List.filter_cons, hf, ne_eq, not_false_eq_true, decide_true, if_true] at ih ⊢
      rw [findField_cons, ih, findField_cons]
      by_cases hk : key = k
      · have hfk : f.key ≠ k := by rw [← hk]; exact hf
        rw [if_neg hfk, if_pos hk, if_pos hk]
      · rw [if_neg hk, if_neg hk]

theorem nodup_filter {fs : List Field} (h : (fieldKeys fs).Nodup) (p : Field → Bool) :
    (fieldKeys (fs.filter p)).Nodup :=
  (List.filter_sublist.map Field.key).nodup h

/-! ### All fields of a key -/

theorem filter_key_eq {fs : List Field} (h : (fieldKeys fs).Nodup) (k : String) :
    fs.filter (·.key = k) = (findField k fs).toList :=
  filter_eq_find?_of_nodup h

/-! ### Merging -/

theorem nodup_foldl_storeField (fs : List Field) : ∀ acc : List Field, (fieldKeys acc).Nodup →
    (fieldKeys (fs.foldl (fun acc f => storeField f acc) acc)).Nodup := by
  induction fs with
  | nil => exact fun _ h => h
  | cons f fs ih => exact fun acc h => ih _ (nodup_storeField h)

theorem nodup_mergeFields (fs : List Field) : (fieldKeys (mergeFields fs)).Nodup :=
  nodup_foldl_storeField fs [] (by simp [fieldKeys])

theorem foldl_storeField_of_nodup : ∀ (fs acc : List Field), (fieldKeys (acc ++ fs)).Nodup →
    fs.foldl (fun acc f => storeField f acc) acc = acc ++ fs
  | [], acc, _ => by simp
  | f :: fs, acc, h => by
    have hf : f.key ∉ fieldKeys acc := by
      intro hmem
      simp only [fieldKeys, List.map_append, List.map_cons, List.nodup_append] at h
      exact h.2.2 _ hmem _ List.mem_cons_self rfl
    rw [List.foldl_cons, storeField_of_not_mem hf, foldl_storeField_of_nodup fs]
    · simp
    · simpa [fieldKeys] using h

theorem mergeFields_concat (fs : List Field) (f : Field) :
    mergeFields (fs ++ [f]) = storeField f (mergeFields fs) := by
  simp only [mergeFields, List.foldl_append, List.foldl_cons, List.foldl_nil]

theorem fieldKeys_mergeFields (fs : List Field) :
    fieldKeys (mergeFields fs) = (fieldKeys fs).eraseDups := by
  induction fs using List.reverseRecOn with
  | nil => rfl
  | append_singleton fs f ih =>
    have hkeys : fieldKeys (fs ++ [f]) = fieldKeys fs ++ [f.key] := List.map_append
    rw [mergeFields_concat, fieldKeys_storeField, ih, hkeys, List.eraseDups_append]
    by_cases hf : f.key ∈ fieldKeys fs
    · rw [if_pos (List.mem_eraseDups.mpr hf)]
      simp [List.removeAll, hf]
    · rw [if_neg (by rwa [List.mem_eraseDups])]
      simp [List.removeAll, hf, List.eraseDups_cons]

theorem findField_mergeFields (k : String) (fs : List Field) :
    findField k (mergeFields fs) = findField k fs.reverse := by
  induction fs using List.reverseRecOn with
  | nil => rfl
  | append_singleton fs f ih =>
    rw [mergeFields_concat, findField_storeField, ih, List.reverse_append, List.reverse_singleton,
      List.singleton_append, findField_cons]

theorem mergeFields_of_nodup {fs : List Field} (h : (fieldKeys fs).Nodup) : mergeFields fs = fs := by
  simpa [mergeFields] using foldl_storeField_of_nodup fs [] (by simpa using h)

end Coffer
