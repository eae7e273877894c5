import Coffer.Proofs.Command.Checks
import Coffer.Proofs.Filter.Depth
import Coffer.Proofs.Session.Sealing

/-!
What a command that was typed can fail with. There may be no such record or field, a name may be
taken, and the disk may fail; besides, a filter may be too deep to be tried on a record, which the
reader of commands does not see (`Command.Overreaches`). Nothing else can happen
(`State.execute_fails_as_expected`). In particular the checks that a vault makes of names and keys
never complain, since the reader of commands has made them before (`Command.isChecked_of_parse`), and
the disk is all that a save can fail for (`CanSeal.error_of_save`).
-/

namespace Coffer

/-- The command asks for the records that satisfy a filter, and for one of them the filter is too deep
to find out. -/
def Command.Overreaches (c : Command) (s : Session) : Prop :=
  ∃ f reveal v r, c = .show (some f) reveal ∧ s.vault = some v ∧ r ∈ v.records ∧ f.holds? r = none

namespace Session

/-- What there is to expect of a command that is well formed: something is missing or in the way, or
a file cannot be read or written. -/
inductive Expected : ExecuteError → Prop where
  | recordNotFound (name : String) : Expected (.vault (.recordNotFound name))
  | fieldNotFound (name key : String) : Expected (.vault (.fieldNotFound name key))
  | recordExists (name : String) : Expected (.vault (.recordExists name))
  | file (e : FileError) : Expected (.session (.file e))

variable {s : Session} {w : World} {v : Vault} {now : Timestamp} {e : VaultError}
  {name key : String}

/-! ### In the vault -/

theorem expected_delete (h : v.delete now name = .error e) : Expected (.vault e) := by
  rw [Vault.delete_eq] at h
  split at h
  · cases h
  · cases h
    exact .recordNotFound name

theorem expected_deleteFields {keys : List String} (h : v.deleteFields now name keys = .error e) :
    Expected (.vault e) := by
  rw [Vault.deleteFields_eq] at h
  split at h
  · split at h <;> cases h
  · cases h
    exact .recordNotFound name

/-- Renaming to a name that is not empty fails for the records only. -/
theorem expected_rename {old new : String} (hnew : new ≠ "")
    (h : v.rename now old new = .error e) : Expected (.vault e) := by
  rw [Vault.rename_eq, if_neg hnew] at h
  split at h
  · split at h
    · cases h
      exact .recordExists new
    · cases h
  · cases h
    exact .recordNotFound old

theorem expected_history {reveal : Bool} (h : v.history name reveal = .error e) :
    Expected (.vault e) := by
  unfold Vault.history at h
  split at h
  · cases h
  · cases h
    exact .recordNotFound name

theorem expected_fieldValue (h : v.fieldValue name key = .error e) : Expected (.vault e) := by
  rw [Vault.fieldValue, Vault.live_eq] at h
  cases hr : v.find? name with
  | none =>
    rw [hr] at h
    cases h
    exact .recordNotFound name
  | some r =>
    simp only [hr, bind, Except.bind] at h
    split at h
    · cases h
    · cases h
      exact .fieldNotFound name key

/-! ### In the session -/

/-- An outcome in which nothing happens but what there is to expect: an error is one of those, and
an import reports nothing but lines that could not be read. -/
structure IsExpected (o : Outcome ExecuteError CommandResult) : Prop where
  error : ∀ e, o.result = .error e → Expected e
  report : ∀ r report, o.result = .ok r → r.report = some report →
    ∀ f ∈ report.failures, f.fault.IsComplaint

theorem isExpected_refuse {e : ExecuteError} (he : Expected e) : IsExpected (s.refuse e w) := by
  constructor
  · rintro _ ⟨⟩
    exact he
  · rintro _ _ ⟨⟩

theorem isExpected_look {r : CommandResult} (hr : r.report = none) :
    IsExpected ⟨.ok r, s, w⟩ := by
  constructor
  · rintro _ ⟨⟩
  · rintro _ report ⟨⟩ hreport
    cases hr.symm.trans hreport

theorem isExpected_commit (h : s.CanSeal w) (hkey : s.key.isSome = true) {c : Command}
    {r : CommandResult} (hr : ∀ report, r.report = some report →
      ∀ f ∈ report.failures, f.fault.IsComplaint) : IsExpected (s.commit c r v w) := by
  have hseal : CanSeal { s with vault := some v } w := h.congr rfl h.key rfl
  have hsave := fun e => hseal.error_of_save (e := e) (by rw [isOpen, hkey]; rfl)
  unfold commit
  generalize Session.save _ w = saved at hsave
  obtain ⟨e | u, s₁, w₁⟩ := saved
  · obtain ⟨f, rfl⟩ := hsave e rfl
    constructor
    · rintro _ ⟨⟩
      exact .file f
    · rintro _ _ ⟨⟩
  · constructor
    · rintro _ ⟨⟩
    · rintro _ report ⟨⟩ hreport
      exact hr report hreport

theorem isExpected_change (h : s.CanSeal w) (hkey : s.key.isSome = true) {c : Command}
    {r : CommandResult} (hr : r.report = none) : IsExpected (s.commit c r v w) := by
  refine isExpected_commit h hkey fun report hreport => ?_
  cases hr.symm.trans hreport

theorem execute_of_overreaches {c : Command} (h : c.Overreaches s) (current : Path) (w : World) :
    s.execute current c w = s.refuse .tooDeep w := by
  obtain ⟨f, reveal, v, r, rfl, hv, hr, hdeep⟩ := h
  have hnone : v.reveal? (some f) = none := Vault.reveal?_eq_none.mpr ⟨f, rfl, r, hr, hdeep⟩
  simp only [execute, hv, hnone]

/-- A checked command that does not overreach, on an open session that can seal its vault. -/
theorem isExpected_execute (h : s.CanSeal w) (hopen : s.isOpen = true) {c : Command}
    (hc : c.IsChecked) (hdeep : ¬ c.Overreaches s) (current : Path) :
    IsExpected (s.execute current c w) := by
  obtain ⟨v, hv⟩ := exists_vault hopen
  have hkey : s.key.isSome = true := by
    rw [isOpen, Bool.and_eq_true] at hopen
    exact hopen.2
  have hnoted : ∀ {w' : World}, w'.random.bytes = w.random.bytes → s.CanSeal w' := fun hrandom =>
    h.congr rfl h.key hrandom
  unfold execute
  rw [hv]
  dsimp only
  -- Where a vault checks names or keys, `hc` has the check pass; all other errors are of records
  -- and fields, or they come from the disk.
  cases c with
  | set spec =>
    obtain ⟨⟨r, v', ids⟩, hset⟩ : ∃ x, v.set w.now w.ids spec.name spec.fields = .ok x :=
      ⟨_, Vault.set_of_storable w.now v w.ids hc⟩
    simp only [hset]
    refine isExpected_change (hnoted ?_) hkey rfl
    split <;> rfl
  | delete name keys =>
    cases keys with
    | nil =>
      dsimp only
      split
      · next hdelete => exact isExpected_refuse (expected_delete hdelete)
      · refine isExpected_change (hnoted ?_) hkey ?_ <;> rfl
    | cons key keys =>
      dsimp only
      split
      · next hdelete => exact isExpected_refuse (expected_deleteFields hdelete)
      · exact isExpected_change h hkey rfl
  | rename old new =>
    dsimp only
    split
    · next hrename => exact isExpected_refuse (expected_rename hc hrename)
    · exact isExpected_change h hkey rfl
  | importFile path =>
    dsimp only
    split
    · exact isExpected_refuse (.file _)
    · next lines hlines =>
      obtain ⟨hnote, -⟩ := noteImport_continues v (v.importLines w.now w.ids lines).2.1
        (v.importLines w.now w.ids lines).1 { w with ids := (v.importLines w.now w.ids lines).2.2 }
      refine isExpected_commit (hnoted hnote.bytes) hkey ?_
      rintro _ ⟨⟩
      exact Vault.isComplaint_of_importLines w.now v w.ids lines
  | «show» filter reveal =>
    dsimp only
    split
    · next hnone =>
      obtain ⟨f, rfl, r, hr, hr'⟩ := Vault.reveal?_eq_none.mp hnone
      exact absurd ⟨f, reveal, v, r, rfl, hv, hr, hr'⟩ hdeep
    · exact isExpected_look rfl
  | history name reveal =>
    dsimp only
    split
    · next hhistory => exact isExpected_refuse (expected_history hhistory)
    · exact isExpected_look rfl
  | copy name key =>
    dsimp only
    split
    · next hvalue => exact isExpected_refuse (expected_fieldValue hvalue)
    · exact isExpected_look rfl

/-- A filter that is not high is found out about. -/
theorem not_overreaches_of_height_le {f : Filter} {reveal : Bool} (h : f.height ≤ Filter.maxDepth) :
    ¬ (Command.show (some f) reveal).Overreaches s := by
  rintro ⟨_, _, v, r, ⟨⟩, -, -, hdeep⟩
  cases (Formula.within_of_height_le h).symm.trans hdeep

/-- A filter with a long way down to the left is not, if there is a record to try it on. -/
theorem overreaches_of_lt_spine {f : Filter} {reveal : Bool} (hv : s.vault = some v)
    (hrecords : v.records ≠ []) (h : Filter.maxDepth < f.spine) :
    (Command.show (some f) reveal).Overreaches s := by
  obtain ⟨r, hr⟩ := List.exists_mem_of_ne_nil _ hrecords
  exact ⟨f, reveal, v, r, rfl, hv, hr, Formula.within_of_lt_spine h⟩

namespace State

/-- **A command that was typed fails as expected, unless its filter is too deep.** In any open session
whose parameters fit into a header, after whatever has been done with it, a command that was read
from a line fails because a record or a field is not there, because a name is taken, because a file
cannot be read or written, or because its filter is too deep for a record, and that exactly if it
overreaches. It does so with any vault that is not empty if the way down to the left is longer than
there is room for, and with none if the filter is not higher. What an import reports are lines that
could not be read, each with a complaint about its text or a token, and so it is with any import of
lines into any vault. -/
theorem execute_fails_as_expected {path : Path} {params : KeyParams} {w : World}
    {deeds : List Deed} (hfull : w.random.IsFull) (hparams : params.FitsHeader)
    (hdeeds : ∀ d ∈ deeds, d.FitsHeader) {line : String} {c : Command}
    (hline : Command.parse line = .ok c) (current : Path) :
    let t := (start path params w).run deeds
    let o := t.session.execute current c t.world
    (t.session.isOpen = true →
      (∀ e, o.result = .error e → Expected e ∨ e = .tooDeep) ∧
      (o.result = .error .tooDeep ↔ c.Overreaches t.session) ∧
      (∀ f reveal v, c = .show (some f) reveal → t.session.vault = some v →
        (f.height ≤ Filter.maxDepth → ¬ c.Overreaches t.session) ∧
        (Filter.maxDepth < f.spine → v.records ≠ [] → c.Overreaches t.session)) ∧
      ∀ r report, o.result = .ok r → r.report = some report →
        ∀ f ∈ report.failures, f.fault.IsComplaint) ∧
    ∀ (now : Timestamp) (v : Vault) (ids : IdSource) (lines : List String),
      ∀ f ∈ (v.importLines now ids lines).1.failures, f.fault.IsComplaint := by
  intro t o
  refine ⟨fun hopen => ?_, Vault.isComplaint_of_importLines⟩
  have hseal : t.session.CanSeal t.world := canSeal_run (canSeal_start hfull hparams) hdeeds
  have hdepth : ∀ f reveal v, c = .show (some f) reveal → t.session.vault = some v →
      (f.height ≤ Filter.maxDepth → ¬ c.Overreaches t.session) ∧
      (Filter.maxDepth < f.spine → v.records ≠ [] → c.Overreaches t.session) := by
    rintro f reveal v rfl hv
    exact ⟨not_overreaches_of_height_le, fun hspine hrecords =>
      overreaches_of_lt_spine hv hrecords hspine⟩
  by_cases hdeep : c.Overreaches t.session
  · have ho : o = t.session.refuse .tooDeep t.world := execute_of_overreaches hdeep current t.world
    rw [ho]
    refine ⟨?_, ⟨fun _ => hdeep, fun _ => rfl⟩, hdepth, nofun⟩
    rintro _ ⟨⟩
    exact .inr rfl
  · have hexpected : IsExpected o :=
      isExpected_execute hseal hopen (Command.isChecked_of_parse hline) hdeep current
    refine ⟨fun e he => .inl (hexpected.error e he), ⟨fun he => ?_, fun h => absurd h hdeep⟩, hdepth,
      hexpected.report⟩
    cases hexpected.error _ he

/-- In a new vault there is nothing to rename. -/
theorem execute_fails_as_expected_rename :
    let t := (start ⟨false, ["vault"]⟩ cheapParams blankWorld).run [.create "open sesame"]
    blankWorld.random.IsFull ∧ cheapParams.FitsHeader ∧
      (∀ d ∈ [Deed.create "open sesame"], d.FitsHeader) ∧
      Command.parse "rename mail post" = .ok (.rename "mail" "post") ∧ t.session.isOpen = true ∧
      (t.session.execute ⟨false, []⟩ (.rename "mail" "post") t.world).result =
        .error (.vault (.recordNotFound "mail")) ∧
      Expected (.vault (.recordNotFound "mail")) := by
  intro t
  have hparams : cheapParams.FitsHeader := isAccepted_cheapParams.fitsHeader
  have hdeeds : ∀ d ∈ [Deed.create "open sesame"], d.FitsHeader :=
    List.forall_mem_singleton.mpr trivial
  have hline : Command.parse "rename mail post" = .ok (.rename "mail" "post") :=
    eq_ok_of_toOption (by decide +kernel)
  obtain ⟨k, ht⟩ : ∃ k, t.session =
    ⟨⟨false, ["vault"]⟩, cheapParams, some .empty, some k, some 0⟩ := session_create
  have hopen : t.session.isOpen = true := by rw [ht]; rfl
  have hresult : (t.session.execute ⟨false, []⟩ (.rename "mail" "post") t.world).result =
      .error (.vault (.recordNotFound "mail")) := by rw [ht]; rfl
  obtain ⟨hfails, -⟩ :=
    execute_fails_as_expected isFull_blankWorld hparams hdeeds hline ⟨false, []⟩
  exact ⟨isFull_blankWorld, hparams, hdeeds, hline, hopen, hresult,
    ((hfails hopen).1 _ hresult).resolve_right nofun⟩

theorem session_commit (h : s.CanSeal w) (c : Command) (r : CommandResult) (v : Vault) :
    ∃ saved, (s.commit c r v w).session = { s with vault := some v, savedRevision := saved } := by
  have hseal : CanSeal { s with vault := some v } w := h.congr rfl h.key rfl
  unfold commit
  obtain ⟨-, heq⟩ | ⟨saved, _, heq, -⟩ | ⟨_, _, heq, -⟩ := hseal.save_cases <;> rw [heq]
  · exact ⟨_, rfl⟩
  · exact ⟨saved, rfl⟩
  · exact ⟨_, rfl⟩

/-- A record in a new vault, and a thousand predicates in a row about it: they are read as a command,
and the command fails. -/
theorem execute_fails_too_deep :
    let set : Command := .set ⟨"a", [⟨"b", "c", false⟩]⟩
    let filter := Filter.row ⟨.field "b", .is "c"⟩ 1000
    let t := (start ⟨false, ["vault"]⟩ cheapParams blankWorld).run
      [.create "open sesame", .execute ⟨false, []⟩ set]
    Command.parse "set a b = c" = .ok set ∧ t.session.isOpen = true ∧
      Command.parse ("show " ++ filter.describe) = .ok (.show (some filter) false) ∧
      (t.session.execute ⟨false, []⟩ (.show (some filter) false) t.world).result =
        .error .tooDeep ∧
      ¬ Expected .tooDeep := by
  intro set filter t
  have hset : Command.parse "set a b = c" = .ok set := eq_ok_of_toOption (by decide +kernel)
  have hwritten : Filter.Written (Predicate.text ⟨.field "b", .is "c"⟩)
      (.atom ⟨.field "b", .is "c"⟩) :=
    Filter.written_atom (.is (o := ⟨.keyword, "is", 0⟩) (v := ⟨.literal, "c", 0⟩) rfl rfl)
      (by rintro _ ⟨⟩; decide) (by decide) (by decide)
  -- The new vault is open and empty, so what the command sets is the only record afterwards.
  let created := (start ⟨false, ["vault"]⟩ cheapParams blankWorld).run [.create "open sesame"]
  have hseal : created.session.CanSeal created.world :=
    canSeal_run (canSeal_start isFull_blankWorld isAccepted_cheapParams.fitsHeader)
      (List.forall_mem_singleton.mpr trivial)
  obtain ⟨k, hcreated⟩ : ∃ k, created.session = _ := session_create
  obtain ⟨v, saved, hrecords, hsession⟩ : ∃ v saved, v.records ≠ [] ∧
      t.session = { created.session with vault := some v, savedRevision := saved } := by
    obtain ⟨r, ids, hr⟩ : ∃ r ids,
        Vault.empty.set created.world.now created.world.ids "a" [⟨"b", "c", false⟩] =
          .ok (r, Vault.touched ⟨[r], [], 0⟩, ids) :=
      ⟨_, _, Vault.set_of_storable _ _ _ (by decide)⟩
    have ht : t.session = (created.session.execute ⟨false, []⟩ set created.world).session := rfl
    have hv : created.session.vault = some .empty := by rw [hcreated]
    simp only [ht, execute, set, hv, hr]
    obtain ⟨saved, hsession⟩ := session_commit
      (w := if Vault.empty.contains "a" = true then { created.world with ids } else
        World.note { created.world with ids } (.recordCreated "a"))
      (hseal.congr rfl hseal.key rfl) set
      { message := "'" ++ r.name ++ "' saved", records := [r.masked] } (Vault.touched ⟨[r], [], 0⟩)
    exact ⟨_, saved, List.cons_ne_nil r [], hsession⟩
  have hopen : t.session.isOpen = true := by rw [hsession, hcreated]; rfl
  have hdeep : (Command.show (some filter) false).Overreaches t.session := by
    refine overreaches_of_lt_spine (v := v) (by rw [hsession]) hrecords ?_
    rw [Filter.spine_row]
    decide
  refine ⟨hset, hopen, Command.parse_row hwritten 1000, ?_, by rintro ⟨⟩⟩
  rw [execute_of_overreaches hdeep]
  rfl

end State

end Session

end Coffer
