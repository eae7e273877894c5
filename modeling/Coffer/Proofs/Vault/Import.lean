import Coffer.Import
import Coffer.Proofs.Command.Setting
import Coffer.Proofs.Vault.Call

/-!
Importing lines is typing them behind `set`.

An import first reads all lines and then stores what it has read, and both may go wrong; the
failures of the two are put together and sorted. Typing takes one line at a time. They come to the
same for two reasons: a line says behind `set` what it says by itself (`Command.parse_set`), and
what is read can always be stored (`RecordSpec.parse_yields`), so that no failure is left to be
sorted in.

Main statement: `importLines_eq_typing`.
-/

namespace Coffer

/-- Complaints name tokens, and not where they stand. -/
theorem ParseError.Cause.message_moved (k : Nat) (cause : ParseError.Cause) :
    (cause.moved k).message = cause.message := by
  cases cause <;> rfl

/-- A complaint further along the line has the same text, but for the offset at its end. -/
theorem ReadError.message_moved (k : Nat) {e : ReadError} (h : e.IsComplaint) :
    ∃ complaint position, e.message = atPosition complaint position ∧
      (e.moved k).message = atPosition complaint (position + k) := by
  cases e with
  | lex e => exact ⟨e.cause.message, e.position, rfl, rfl⟩
  | parse e =>
    refine ⟨e.cause.message, e.position, rfl, ?_⟩
    rw [← ParseError.Cause.message_moved k]
    rfl
  | _ => contradiction

namespace Vault

/-! ### Typing -/

/-- Stores a record spec. Together with the vault and the source of ids goes the number of specs
that have been stored. -/
def storeSpec (now : Timestamp) (st : Nat × Vault × IdSource) (spec : RecordSpec) :
    Nat × Vault × IdSource :=
  match st.2.1.set now st.2.2 spec.name spec.fields with
  | .ok (_, v, ids) => (st.1 + 1, v, ids)
  | .error _ => st

/-- Types a line behind `set`. Nothing happens if it is no command. -/
def typeLine (now : Timestamp) (st : Nat × Vault × IdSource) (line : String) :
    Nat × Vault × IdSource :=
  match Command.parse ("set " ++ line) with
  | .ok (.set spec) => storeSpec now st spec
  | _ => st

def isBlankLine (line : String) : Bool :=
  line.toList.all Text.isBlank

/-- Whether a line is refused behind `set`. -/
def isRefused (line : String) : Bool :=
  match Command.parse ("set " ++ line) with
  | .ok _ => false
  | .error _ => true

/-- The failure is that of the line with the number: what is wrong with the line by itself. Behind
`set` it is complained about in the same words, at an offset greater by 4. -/
def Reports (numbered : String × Nat) (f : ImportFailure) : Prop :=
  f.line = numbered.2 ∧ ∃ e complaint position, f.fault = .unreadable e ∧ e.IsComplaint ∧
    RecordSpec.parse numbered.1 = .error e ∧ e.message = atPosition complaint position ∧
    Command.parse ("set " ++ numbered.1) = .error (e.moved 4) ∧
    (e.moved 4).message = atPosition complaint (position + 4)

variable {line : String} {spec : RecordSpec} {e : ReadError}

theorem typeLine_of_ok (now : Timestamp) (st : Nat × Vault × IdSource)
    (h : RecordSpec.parse line = .ok spec) : typeLine now st line = storeSpec now st spec := by
  rw [typeLine, Command.parse_set, h]

theorem typeLine_of_error (now : Timestamp) (st : Nat × Vault × IdSource)
    (h : RecordSpec.parse line = .error e) : typeLine now st line = st := by
  rw [typeLine, Command.parse_set, h]

theorem isRefused_of_ok (h : RecordSpec.parse line = .ok spec) : isRefused line = false := by
  rw [isRefused, Command.parse_set, h]

theorem isRefused_of_error (h : RecordSpec.parse line = .error e) : isRefused line = true := by
  rw [isRefused, Command.parse_set, h]

theorem storable_of_parse (h : RecordSpec.parse line = .ok spec) :
    Storable spec.name spec.fields := by
  obtain ⟨hname, hkeys, hnodup⟩ := (RecordSpec.parse_yields line).of_ok h
  exact storable_of_keys hname hkeys hnodup

theorem reports_of_parse {n : Nat} (h : RecordSpec.parse line = .error e) :
    Reports (line, n) ⟨n, .unreadable e⟩ := by
  have hcomplaint := (RecordSpec.parse_yields line).of_error h
  obtain ⟨complaint, position, hmessage, hmoved⟩ := ReadError.message_moved 4 hcomplaint
  refine ⟨rfl, e, complaint, position, rfl, hcomplaint, h, hmessage, ?_, hmoved⟩
  rw [Command.parse_set, h]

/-! ### Reading the lines -/

/-- How the lines from number `n` on are sorted into record specs and failures. -/
inductive Sorts : Nat → List String → List ImportEntry → List ImportFailure → Prop where
  | nil {n : Nat} : Sorts n [] [] []
  | blank {n : Nat} {line : String} {lines : List String} {entries : List ImportEntry}
      {failures : List ImportFailure} : isBlankLine line = true →
      Sorts (n + 1) lines entries failures → Sorts n (line :: lines) entries failures
  | entry {n : Nat} {line : String} {lines : List String} {spec : RecordSpec}
      {entries : List ImportEntry} {failures : List ImportFailure} : isBlankLine line = false →
      RecordSpec.parse line = .ok spec → Sorts (n + 1) lines entries failures →
      Sorts n (line :: lines) (⟨n, spec⟩ :: entries) failures
  | failure {n : Nat} {line : String} {lines : List String} {e : ReadError}
      {entries : List ImportEntry} {failures : List ImportFailure} : isBlankLine line = false →
      RecordSpec.parse line = .error e → Sorts (n + 1) lines entries failures →
      Sorts n (line :: lines) entries (⟨n, .unreadable e⟩ :: failures)

theorem sorts_readImportLines (lines : List String) (n : Nat) :
    Sorts n lines (readImportLines n lines).1 (readImportLines n lines).2 := by
  induction lines generalizing n with
  | nil => exact .nil
  | cons line lines ih =>
    have ih := ih (n + 1)
    rw [Int.natCast_succ] at ih
    rw [readImportLines]
    dsimp only
    split
    · next hblank => exact .blank hblank ih
    next hblank =>
    have hblank : isBlankLine line = false := Bool.eq_false_iff.mpr hblank
    cases hparse : RecordSpec.parse line with
    | ok spec => exact .entry hblank hparse ih
    | error e => exact .failure hblank hparse ih

variable {n : Nat} {lines : List String} {entries : List ImportEntry}
  {failures : List ImportFailure}

/-- Storing what was read is typing the lines. -/
theorem Sorts.foldl (h : Sorts n lines entries failures) (now : Timestamp)
    (st : Nat × Vault × IdSource) :
    entries.foldl (fun st e => storeSpec now st e.spec) st =
      (lines.filter (!isBlankLine ·)).foldl (typeLine now) st := by
  induction h generalizing st with
  | nil => rfl
  | blank hblank _ ih => rw [ih, List.filter_cons_of_neg (by simp [hblank])]
  | entry hblank hparse _ ih =>
    rw [List.filter_cons_of_pos (by simp [hblank]), List.foldl_cons, List.foldl_cons, ih,
      typeLine_of_ok now st hparse]
  | failure hblank hparse _ ih =>
    rw [List.filter_cons_of_pos (by simp [hblank]), List.foldl_cons, ih,
      typeLine_of_error now st hparse]

theorem Sorts.storable (h : Sorts n lines entries failures) :
    ∀ e ∈ entries, Storable e.spec.name e.spec.fields := by
  induction h with
  | nil => simp
  | blank _ _ ih | failure _ _ _ ih => exact ih
  | entry _ hparse _ ih => exact List.forall_mem_cons.mpr ⟨storable_of_parse hparse, ih⟩

theorem Sorts.reports (h : Sorts n lines entries failures) :
    List.Forall₂ Reports
      ((lines.zipIdx n).filter fun p => !isBlankLine p.1 && isRefused p.1) failures := by
  induction h with
  | nil => exact .nil
  | blank hblank _ ih =>
    rw [List.zipIdx_cons, List.filter_cons_of_neg (by simp [hblank])]
    exact ih
  | entry hblank hparse _ ih =>
    rw [List.zipIdx_cons, List.filter_cons_of_neg (by simp [isRefused_of_ok hparse])]
    exact ih
  | failure hblank hparse _ ih =>
    rw [List.zipIdx_cons, List.filter_cons_of_pos (by simp [hblank, isRefused_of_error hparse])]
    exact .cons (reports_of_parse hparse) ih

/-- Failures are found in the order of the lines. -/
theorem Sorts.ascending (h : Sorts n lines entries failures) :
    failures.Pairwise (·.line < ·.line) ∧ ∀ f ∈ failures, (n : Int) ≤ f.line := by
  induction h with
  | nil => exact ⟨.nil, by simp⟩
  | blank _ _ ih | entry _ _ _ ih =>
    refine ⟨ih.1, ?_⟩
    intro f hf
    have hline := ih.2 f hf
    omega
  | failure _ _ _ ih =>
    refine ⟨List.pairwise_cons.mpr ⟨?_, ih.1⟩, List.forall_mem_cons.mpr ⟨Int.le_refl _, ?_⟩⟩
    · intro f hf
      have hline := ih.2 f hf
      dsimp only
      omega
    · intro f hf
      have hline := ih.2 f hf
      omega

theorem Sorts.length_add (h : Sorts n lines entries failures) :
    entries.length + failures.length = (lines.filter (!isBlankLine ·)).length := by
  induction h with
  | nil => rfl
  | blank hblank _ ih => rw [ih, List.filter_cons_of_neg (by simp [hblank])]
  | entry hblank _ _ ih | failure hblank _ _ ih =>
    rw [List.filter_cons_of_pos (by simp [hblank]), List.length_cons, List.length_cons]
    omega

/-! ### Imports -/

theorem importEntries_of_storable (now : Timestamp) : ∀ (entries : List ImportEntry)
    (count : Nat) (v : Vault) (ids : IdSource),
    (∀ e ∈ entries, Storable e.spec.name e.spec.fields) →
    ∃ v' ids', v.importEntries now ids entries = (⟨entries.length, []⟩, v', ids') ∧
      entries.foldl (fun st e => storeSpec now st e.spec) (count, v, ids) =
        (count + entries.length, v', ids')
  | [], _, v, ids, _ => ⟨v, ids, rfl, rfl⟩
  | e :: entries, count, v, ids, h => by
    obtain ⟨hstorable, hrest⟩ := List.forall_mem_cons.mp h
    obtain ⟨r, v₁, ids₁, hset⟩ : ∃ r v₁ ids₁,
        v.set now ids e.spec.name e.spec.fields = .ok (r, v₁, ids₁) :=
      ⟨_, _, _, set_of_storable now v ids hstorable⟩
    obtain ⟨v', ids', himport, hfold⟩ :=
      importEntries_of_storable now entries (count + 1) v₁ ids₁ hrest
    refine ⟨v', ids', ?_, ?_⟩
    · simp only [importEntries, hset, himport, List.length_cons]
    · rw [List.foldl_cons, storeSpec, hset]
      simp only [hfold, List.length_cons, Nat.add_right_comm, Nat.add_assoc]

/-- **Importing lines is typing them behind `set`**, one after the other, but for blank ones. The
report counts the lines that were stored, and has one failure for each line that is refused, in the
order of the lines. -/
theorem importLines_eq_typing (now : Timestamp) (v : Vault) (ids : IdSource)
    (lines : List String) :
    ∃ report v' ids', v.importLines now ids lines = (report, v', ids') ∧
      (report.imported, v', ids') =
        (lines.filter (!isBlankLine ·)).foldl (typeLine now) (0, v, ids) ∧
      report.imported + report.failures.length = (lines.filter (!isBlankLine ·)).length ∧
      List.Forall₂ Reports ((lines.zipIdx 1).filter fun p => !isBlankLine p.1 && isRefused p.1)
        report.failures ∧
      report.failures.Pairwise (·.line < ·.line) := by
  have hsorts : Sorts 1 lines (readImportLines 1 lines).1 (readImportLines 1 lines).2 :=
    sorts_readImportLines lines 1
  obtain ⟨v', ids', himport, hfold⟩ :=
    importEntries_of_storable now _ 0 v ids hsorts.storable
  -- Storing has added no failures, and those of reading are in order already.
  have hsorted : ((readImportLines 1 lines).2 ++ []).mergeSort (fun a b => a.line ≤ b.line) =
      (readImportLines 1 lines).2 := by
    rw [List.append_nil]
    apply List.mergeSort_of_pairwise
    exact hsorts.ascending.1.imp fun hlt => decide_eq_true (Int.le_of_lt hlt)
  refine ⟨⟨(readImportLines 1 lines).1.length, (readImportLines 1 lines).2⟩, v', ids', ?_, ?_,
    hsorts.length_add, hsorts.reports, hsorts.ascending.1⟩
  · simp only [importLines, himport, hsorted]
  · calc ((readImportLines 1 lines).1.length, v', ids')
        = (readImportLines 1 lines).1.foldl (fun st e => storeSpec now st e.spec) (0, v, ids) := by
          rw [hfold, Nat.zero_add]
      _ = (lines.filter (!isBlankLine ·)).foldl (typeLine now) (0, v, ids) :=
          hsorts.foldl now (0, v, ids)

/-- A blank line is passed over, and has a number all the same. -/
example : (importLines (.utc 0) .empty ⟨fun _ => ⟨0⟩, 0⟩
    ["mail user = me", " ", "mail user", "bank"]).1 =
      ⟨2, [⟨3, .unreadable (.parse ⟨.expected "'='" (.stop 9), 9⟩)⟩]⟩ := by
  decide +kernel

end Vault

end Coffer
