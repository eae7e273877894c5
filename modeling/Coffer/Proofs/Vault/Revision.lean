import Coffer.Proofs.Vault.Course
import Coffer.Proofs.Vault.Payload

/-!
The count of changes tells whether a vault has changed.

An operation that stops has not written anything yet (`Operation.desk_of_error`): all checks come
before the first write, also those of the last field of many, and an import catches what is wrong
with an entry before it goes on. An operation that does not stop leaves the vault as it is or raises
the count (`Operation.follows`). So two vaults of one run with the same count are the same, which is
what a session relies on when it compares its count with that of the last save.

Main statement: `revision_tracks`.
-/

namespace Coffer.Vault

variable {d d' : Desk} {c : Call} {op : Operation} {e : VaultError} {a : Answer}

/-- A turn leaves the vault as it is, or counts it as changed. -/
theorem Turn.follows (h : Turn d c d') : Follows d.vault d'.vault := by
  cases h with
  | passed => exact .inl rfl
  | created | stored | deleted | dropped | renamed => exact .inr (Nat.lt_succ_self _)

/-- Setting fields counts, even if the record has them already. -/
theorem Turn.revision_set {name : String} {fields : List Field}
    (h : Turn d (.set name fields) d') : d'.vault.revision = d.vault.revision + 1 := by
  cases h <;> rfl

theorem Follows.trans {v v' v'' : Vault} (h : Follows v v') (h' : Follows v' v'') :
    Follows v v'' := by
  obtain rfl | hlt' := h'
  · exact h
  · exact .inr (Nat.lt_of_le_of_lt h.revision_le hlt')

theorem Follows.eq_of_revision {v v' : Vault} (h : Follows v v')
    (heq : v'.revision = v.revision) : v' = v := by
  obtain hsame | hlt := h
  · exact hsame
  · omega

theorem Operation.follows (op : Operation) (d : Desk) :
    Follows d.vault (deskAfter (op.course d)).vault :=
  op.after_induction (P := fun d' => Follows d.vault d'.vault)
    (fun _ _ _ h hturn => h.trans hturn.follows) d (.inl rfl)

/-- An import is never stopped, and counts a change for each entry it has stored. -/
theorem importEntries_course (entries : List ImportEntry) (d : Desk) :
    ∃ report d', (Call.importEntries entries).course d = .ok (.report report) d' ∧
      d'.vault.revision = d.vault.revision + report.imported := by
  obtain ⟨report, d', himport, hcount⟩ := Course.importEntries_induction
    (P := fun n d' => d'.vault.revision = d.vault.revision + n)
    (fun n _ _ _ _ h hturn => by rw [hturn.revision_set, h, Nat.add_assoc]) entries 0 d rfl
  rw [Nat.zero_add] at hcount
  exact ⟨report, d', Course.map_of_ok himport, hcount⟩

/-- What stops has not begun. -/
theorem Operation.desk_of_error (h : op.course d = .error e d') : d' = d := by
  cases op with
  | ask q =>
    rw [course, Course.ask] at h
    split at h
    · cases h
    · cases h
      rfl
  | call c =>
    rw [course] at h
    obtain hc | ⟨entries, rfl⟩ := c.isImport_cases
    · obtain ⟨f, hcourse⟩ | ⟨a, d'', hcourse, -⟩ := Call.course_cases d hc
      · cases hcourse.symm.trans h
        rfl
      · cases hcourse.symm.trans h
    · -- An import goes on behind an entry that is refused.
      obtain ⟨report, d'', hcourse, -⟩ := importEntries_course entries d
      cases hcourse.symm.trans h

/-- **The count of changes tracks every change**, in every vault, for every operation and whatever
the clock shows. An operation that fails leaves everything as it was. One that succeeds does not
lower the count, and if the count is the same after it, so is the whole vault. Imports always
succeed, and raise the count by the number of entries they report as imported. If the clock stands
still, what the operation comes to is what it yields at that moment. -/
theorem revision_tracks (op : Operation) (d : Desk) :
    (∀ e d', op.course d = .error e d' → d' = d) ∧
    (∀ a d', op.course d = .ok a d' → d.vault.revision ≤ d'.vault.revision ∧
      (d'.vault.revision = d.vault.revision → d'.vault = d.vault)) ∧
    (∀ entries, op = .call (.importEntries entries) → ∃ report d',
      op.course d = .ok (.report report) d' ∧
        d'.vault.revision = d.vault.revision + report.imported) ∧
    ∀ now, op.course { d with clock := .still now } =
      settled now d.vault d.ids (op.atOnce now d.vault d.ids) := by
  refine ⟨fun e d' h => Operation.desk_of_error h, fun a d' h => ?_, ?_,
    fun now => Operation.course_still op⟩
  · have hfollows : Follows d.vault d'.vault := by
      have hop := op.follows d
      rwa [h] at hop
    exact ⟨hfollows.revision_le, hfollows.eq_of_revision⟩
  · rintro entries rfl
    exact importEntries_course entries d

end Coffer.Vault
