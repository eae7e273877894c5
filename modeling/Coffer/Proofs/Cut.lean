import Mathlib.Data.List.TakeWhile

/-!
A list is cut behind the run of elements of a kind that it begins with. All readers of texts take
characters in this way, and what they take is found again by what ends it: a list that does not go
on with the run (`takeWhile_append`, `dropWhile_append`). So there is one such cut only (`unique`).
-/

namespace Coffer.Cut

variable {α : Type*} {p : α → Bool} {run rest run' rest' : List α}

theorem dropWhile_eq_self (h : ∀ c ∈ rest.head?, p c = false) : rest.dropWhile p = rest := by
  cases rest with
  | nil => rfl
  | cons c rest => exact List.dropWhile_cons_of_neg (by simp [h c rfl])

theorem takeWhile_eq_nil (h : ∀ c ∈ rest.head?, p c = false) : rest.takeWhile p = [] := by
  cases rest with
  | nil => rfl
  | cons c rest => exact List.takeWhile_cons_of_neg (by simp [h c rfl])

theorem head_dropWhile (p : α → Bool) (cs : List α) : ∀ c ∈ (cs.dropWhile p).head?, p c = false := by
  intro c hc
  have hhead := List.head?_dropWhile_not p cs
  rw [Option.mem_def.mp hc] at hhead
  exact hhead

section

variable (hrun : ∀ c ∈ run, p c = true) (hrest : ∀ c ∈ rest.head?, p c = false)
include hrun hrest

theorem takeWhile_append : (run ++ rest).takeWhile p = run := by
  rw [List.takeWhile_append_of_pos hrun, takeWhile_eq_nil hrest, List.append_nil]

theorem dropWhile_append : (run ++ rest).dropWhile p = rest := by
  rw [List.dropWhile_append_of_pos hrun, dropWhile_eq_self hrest]

/-- A list is cut in one way only into elements of a kind and a rest that begins with another. -/
theorem unique (hrun' : ∀ c ∈ run', p c = true) (hrest' : ∀ c ∈ rest'.head?, p c = false)
    (h : run ++ rest = run' ++ rest') : run = run' ∧ rest = rest' := by
  constructor
  · rw [← takeWhile_append hrun hrest, h, takeWhile_append hrun' hrest']
  · rw [← dropWhile_append hrun hrest, h, dropWhile_append hrun' hrest']

end

end Coffer.Cut
