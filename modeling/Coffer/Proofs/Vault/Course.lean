import Coffer.Proofs.Vault.Moves
import Coffer.Vault.Dump
import Coffer.Vault.Query

/-!
Operations step by step.

An operation of the vault is a function of one moment, and when it fails it yields no vault; so it
does not show what would be left of a vault if it failed halfway, nor what happens when the clock
goes on while it works. A `Course` is an operation at work on a `Desk`, where the vault lies beside
the source of ids and the clock: it looks at the clock each time it needs to know the time, and
writes to the vault bit by bit. It may stop at any point, and leaves the desk as it is there.

What is proved: with a clock that stands still, the course of an operation comes to what the
operation does at that moment, and leaves the desk as it was where the operation fails
(`Operation.course_still`). With any clock, a call that is no import either stops before it has
written anything or takes a `Turn` (`Call.course_cases`), and an import takes many
(`Course.importEntries_induction`); so what every turn keeps, every operation keeps
(`Operation.after_induction`).
-/

namespace Coffer

/-- A clock: what it will show, each time it is looked at. -/
structure Clock where
  reading : Nat → Timestamp

namespace Clock

def later (c : Clock) : Clock :=
  ⟨fun n => c.reading (n + 1)⟩

def still (now : Timestamp) : Clock :=
  ⟨fun _ => now⟩

end Clock

/-- A name or fields cannot be stored. -/
def VaultError.IsInvalid : VaultError → Prop
  | .emptyName | .emptyKey | .repeatedKey _ => True
  | _ => False

def Record.touchedAt (r : Record) (t : Timestamp) : Record :=
  { r with updatedAt := t }

namespace Vault

/-- The vault, and what else an operation needs. -/
structure Desk where
  vault : Vault
  ids : IdSource
  clock : Clock

/-- An operation at work. An error leaves the desk as it is when the error occurs. -/
abbrev Course (α : Type) :=
  EStateM VaultError Desk α

def deskAfter {α : Type} : EStateM.Result VaultError Desk α → Desk
  | .ok _ d => d
  | .error _ d => d

namespace Course

/-! ### Single steps -/

def look : Course Timestamp :=
  modifyGet fun d => (d.clock.reading 0, { d with clock := d.clock.later })

def takeId : Course Uuid :=
  modifyGet fun d => (d.ids.next.1, { d with ids := d.ids.next.2 })

def write (f : Vault → Vault) : Course Unit :=
  modify fun d => { d with vault := f d.vault }

def see {α : Type} (view : Vault → α) : Course α := fun d =>
  .ok (view d.vault) d

def ask {α : Type} (question : Vault → Except VaultError α) : Course α := fun d =>
  match question d.vault with
  | .ok a => .ok a d
  | .error e => .error e d

/-- Stops unless a condition holds. -/
def check (p : Prop) [Decidable p] (e : VaultError) : Course Unit :=
  if p then pure () else throw e

/-- Puts the time on a record that has changed, writes it in its place, and counts the change. -/
def touch (r : Record) (place : Record → Vault → Vault) : Course Record := do
  let r := r.touchedAt (← look)
  write (place r)
  write touched
  return r

/-- Writes a record in the place of the one with a name, and touches it there. -/
def change (name : String) (r : Record) : Course Record := do
  write fun v => v.replace name r
  touch r fun r v => v.replace r.name r

/-- A new record. The clock is looked at for either of its two times. -/
def make (name : String) : Course Record := do
  let id ← takeId
  let createdAt ← look
  let updatedAt ← look
  return ⟨name, id, [], [], createdAt, updatedAt⟩

/-! ### Operations -/

def set (name : String) (fields : List Field) : Course Record := do
  check (name ≠ "") .emptyName
  ask fun _ => checkFields [] fields
  match ← see fun v => v.find? name with
  | some r => change name (storeFields (← look) r fields)
  | none =>
    let r ← make name
    let r := storeFields (← look) r fields
    write fun v => { v with records := v.records ++ [r] }
    touch r fun r v => v.replace name r

def delete (name : String) : Course Record := do
  let r ← ask fun v => v.live name
  let entry : HistoryEntry := { time := ← look, kind := .recordDeleted, snapshot := r.fields }
  let r := { r with fields := [], history := r.history ++ [entry] }
  write fun v => { v with
    records := v.records.filter (·.name ≠ name)
    tombstones := v.tombstones ++ [r] }
  touch r fun r v => { v with tombstones := v.tombstones.dropLast ++ [r] }

def deleteFields (name : String) (keys : List String) : Course Record := do
  let r ← ask fun v => v.live name
  let now ← look
  if keys.all fun key => (r.field? key).isNone then return r
  else change name (dropFields now r keys)

def rename (old new : String) : Course Record := do
  check (new ≠ "") .emptyName
  let r ← ask fun v => v.live old
  check (!(← see fun v => v.contains new)) (.recordExists new)
  let entry : HistoryEntry :=
    { time := ← look, kind := .recordRenamed, priorValue := .str old, priorSensitive := .bool false }
  change old { r with name := new, history := r.history ++ [entry] }

/-- Sets the fields of one entry, and yields the failure if they cannot be stored. An error of
another sort is passed on. -/
def applyEntry (e : ImportEntry) : Course (Option ImportFailure) :=
  tryCatch ((fun _ => none) <$> set e.spec.name e.spec.fields) fun fault =>
    match fault with
    | .emptyName | .emptyKey | .repeatedKey _ => pure (some ⟨e.line, .rejected fault⟩)
    | _ => throw fault

def importEntries : List ImportEntry → Course ImportReport
  | [] => return ⟨0, []⟩
  | e :: rest => do
    let failure? ← applyEntry e
    let report ← importEntries rest
    match failure? with
    | none => return { report with imported := report.imported + 1 }
    | some failure => return { report with failures := failure :: report.failures }

end Course

inductive Answer where
  | record (r : Record)
  | records (rs : List Record)
  | log (entries : List HistoryEntry)
  | text (s : String)
  | report (r : ImportReport)
  | names (ns : List String)
  | size (n : Nat)
  | truth (b : Bool)
  | written (j : Json)

inductive Question where
  | get (name : String) (reveal : Bool)
  | list (filter : Option Filter) (reveal : Bool)
  | fieldValue (name key : String)
  | history (ref : String) (reveal : Bool)
  | names
  | size
  | contains (name : String)
  | dump

def Question.answer : Question → Vault → Except VaultError Answer
  | .get name reveal, v => (v.get name reveal).map .record
  | .list filter reveal, v => .ok (.records (if reveal then v.reveal filter else v.show filter))
  | .fieldValue name key, v => (v.fieldValue name key).map .text
  | .history ref reveal, v => (v.history ref reveal).map .log
  | .names, v => .ok (.names v.names)
  | .size, v => .ok (.size v.size)
  | .contains name, v => .ok (.truth (v.contains name))
  | .dump, v => .ok (.written v.dump)

inductive Operation where
  | call (c : Call)
  | ask (q : Question)

def Call.course : Call → Course Answer
  | .set name fields => .record <$> Course.set name fields
  | .delete name => .record <$> Course.delete name
  | .deleteFields name keys => .record <$> Course.deleteFields name keys
  | .rename old new => .record <$> Course.rename old new
  | .importEntries entries => .report <$> Course.importEntries entries

def Operation.course : Operation → Course Answer
  | .call c => c.course
  | .ask q => Course.ask q.answer

def Operation.atOnce (now : Timestamp) (v : Vault) (ids : IdSource) :
    Operation → Except VaultError (Answer × Vault × IdSource)
  | .call (.set name fields) =>
    (v.set now ids name fields).map fun (r, v, ids) => (.record r, v, ids)
  | .call (.delete name) => (v.delete now name).map fun (r, v) => (.record r, v, ids)
  | .call (.deleteFields name keys) =>
    (v.deleteFields now name keys).map fun (r, v) => (.record r, v, ids)
  | .call (.rename old new) => (v.rename now old new).map fun (r, v) => (.record r, v, ids)
  | .call (.importEntries entries) =>
    let (report, v, ids) := v.importEntries now ids entries
    .ok (.report report, v, ids)
  | .ask q => (q.answer v).map fun a => (a, v, ids)

/-! ### What the steps come to -/

namespace Course

variable {α β : Type} {d d' : Desk} {name old new : String} {fields : List Field}
  {keys : List String} {r : Record} {e : VaultError}

theorem bind_of_ok {x : Course α} {f : α → Course β} {a : α} (h : x d = .ok a d') :
    (x >>= f) d = f a d' := by
  simp only [bind, EStateM.bind, h]

theorem bind_of_error {x : Course α} {f : α → Course β} (h : x d = .error e d') :
    (x >>= f) d = .error e d' := by
  simp only [bind, EStateM.bind, h]

theorem map_of_ok {x : Course α} {f : α → β} {a : α} (h : x d = .ok a d') :
    (f <$> x) d = .ok (f a) d' := by
  simp only [Functor.map, EStateM.map, h]

theorem map_of_error {x : Course α} {f : α → β} (h : x d = .error e d') :
    (f <$> x) d = .error e d' := by
  simp only [Functor.map, EStateM.map, h]

theorem look_eq (d : Desk) :
    look d = .ok (d.clock.reading 0) { d with clock := d.clock.later } := rfl

theorem see_eq (view : Vault → α) (d : Desk) : see view d = .ok (view d.vault) d := rfl

theorem ask_of_ok {question : Vault → Except VaultError α} {a : α} (h : question d.vault = .ok a) :
    ask question d = .ok a d := by
  simp only [ask, h]

theorem ask_of_error {question : Vault → Except VaultError α} (h : question d.vault = .error e) :
    ask question d = .error e d := by
  simp only [ask, h]

theorem check_of_pos {p : Prop} [Decidable p] (h : p) (e : VaultError) (d : Desk) :
    check p e d = .ok () d := by
  rw [check, if_pos h]
  rfl

theorem check_of_neg {p : Prop} [Decidable p] (h : ¬ p) (e : VaultError) (d : Desk) :
    check p e d = .error e d := by
  rw [check, if_neg h]
  rfl

/-- A record is written twice in its place, the second time under the name it has then. -/
theorem change_eq (hothers : ∀ q ∈ d.vault.records, q.name = r.name → q.name = name) :
    change name r d =
      let r' := r.touchedAt (d.clock.reading 0)
      .ok r' ⟨(d.vault.replace name r').touched, d.ids, d.clock.later⟩ := by
  have htwice : ∀ r' : Record,
      (d.vault.replace name r).replace r.name r' = d.vault.replace name r' := by
    intro r'
    simp only [replace, List.map_map]
    congr 1
    refine List.map_congr_left fun q hq => ?_
    by_cases hname : q.name = name
    · simp [hname]
    · have hname' : q.name ≠ r.name := fun h => hname (hothers q hq h)
      simp [hname, hname']
  dsimp only
  rw [← htwice]
  rfl

/-! ### What the operations come to -/

theorem set_of_find? (hs : Storable name fields) (hr : d.vault.find? name = some r) :
    set name fields d =
      let r' := (storeFields (d.clock.reading 0) r fields).touchedAt (d.clock.reading 1)
      .ok r' ⟨(d.vault.replace name r').touched, d.ids, d.clock.later.later⟩ := by
  have hname : (storeFields (d.clock.reading 0) r fields).name = name :=
    (storeFields_name _ fields r).trans (name_of_find? hr)
  rw [set, bind_of_ok (check_of_pos hs.1 _ d), bind_of_ok (ask_of_ok (checkFields_nil.mpr hs.2)),
    bind_of_ok (see_eq _ d), hr]
  dsimp only
  rw [bind_of_ok (look_eq d), change_eq fun q _ hq => hq.trans hname]
  rfl

theorem set_of_free (hs : Storable name fields) (hr : d.vault.find? name = none) :
    set name fields d =
      let r := (Record.blank name d.ids.next.1 (d.clock.reading 0)).touchedAt (d.clock.reading 1)
      let r' := (storeFields (d.clock.reading 2) r fields).touchedAt (d.clock.reading 3)
      .ok r' ⟨touched { d.vault with records := d.vault.records ++ [r'] }, d.ids.next.2,
        d.clock.later.later.later.later⟩ := by
  -- The new record is written at the end and then once more there, where it alone has its name.
  have htwice : ∀ r r' : Record, r.name = name →
      replace { d.vault with records := d.vault.records ++ [r] } name r' =
        { d.vault with records := d.vault.records ++ [r'] } := by
    intro r r' hname
    have hothers : d.vault.records.map (fun q => if q.name = name then r' else q) =
        d.vault.records := by
      refine (List.map_congr_left fun q hq => if_neg ?_).trans (List.map_id' _)
      rintro rfl
      exact find?_eq_none_iff.mp hr (List.mem_map_of_mem hq)
    simp [replace, hothers, hname]
  rw [set, bind_of_ok (check_of_pos hs.1 _ d), bind_of_ok (ask_of_ok (checkFields_nil.mpr hs.2)),
    bind_of_ok (see_eq _ d), hr]
  dsimp only
  rw [← htwice _ _ (storeFields_name (d.clock.reading 2) fields
    ((Record.blank name d.ids.next.1 (d.clock.reading 0)).touchedAt (d.clock.reading 1)))]
  rfl

theorem isInvalid_of_checkFields : ∀ {fs : List Field} {seen : List String},
    checkFields seen fs = .error e → e.IsInvalid
  | f :: fs, seen, h => by
    rw [checkFields] at h
    split at h
    · cases h
      trivial
    split at h
    · cases h
      trivial
    exact isInvalid_of_checkFields h

theorem set_of_not_storable (now : Timestamp) (d : Desk) (hs : ¬ Storable name fields) :
    ∃ e : VaultError, e.IsInvalid ∧ d.vault.set now d.ids name fields = .error e ∧
      set name fields d = .error e d := by
  by_cases hname : name = ""
  · subst hname
    exact ⟨.emptyName, trivial, rfl, rfl⟩
  cases hcheck : checkFields [] fields with
  | ok u => exact absurd ⟨hname, checkFields_nil.mp hcheck⟩ hs
  | error e =>
    refine ⟨e, isInvalid_of_checkFields hcheck, ?_, ?_⟩
    · simp only [Vault.set, hname, hcheck, if_false]
      rfl
    · rw [set, bind_of_ok (check_of_pos hname _ d), bind_of_error (ask_of_error hcheck)]

theorem live_of_find? (hr : d.vault.find? name = some r) : d.vault.live name = .ok r := by
  rw [live_eq, hr]

theorem live_of_free (hr : d.vault.find? name = none) :
    d.vault.live name = .error (.recordNotFound name) := by
  rw [live_eq, hr]

theorem delete_of_find? (hr : d.vault.find? name = some r) :
    delete name d =
      let r' := (buried (d.clock.reading 0) r).touchedAt (d.clock.reading 1)
      .ok r' ⟨touched { d.vault with
          records := d.vault.records.filter (·.name ≠ name)
          tombstones := d.vault.tombstones ++ [r'] }, d.ids, d.clock.later.later⟩ := by
  have hlast : ∀ q : Record, (d.vault.tombstones ++ [q]).dropLast = d.vault.tombstones :=
    fun q => List.dropLast_concat
  rw [delete, bind_of_ok (ask_of_ok (live_of_find? hr))]
  dsimp only
  conv_rhs => rw [← hlast ((buried (d.clock.reading 0) r).touchedAt r.updatedAt)]
  rfl

theorem delete_of_free (hr : d.vault.find? name = none) :
    delete name d = .error (.recordNotFound name) d := by
  rw [delete, bind_of_error (ask_of_error (live_of_free hr))]

theorem deleteFields_of_idle (hr : d.vault.find? name = some r)
    (hkeys : ∀ k ∈ keys, k ∉ fieldKeys r.fields) :
    deleteFields name keys d = .ok r { d with clock := d.clock.later } := by
  have hall : (keys.all fun key => (r.field? key).isNone) = true := by
    simpa only [List.all_eq_true, Option.isNone_iff_eq_none, Record.field?_eq,
      findField_eq_none_iff] using hkeys
  rw [deleteFields, bind_of_ok (ask_of_ok (live_of_find? hr)), bind_of_ok (look_eq d), if_pos hall]
  rfl

theorem deleteFields_of_mem (hr : d.vault.find? name = some r)
    (hkeys : ∃ k ∈ keys, k ∈ fieldKeys r.fields) :
    deleteFields name keys d =
      let r' := (dropFields (d.clock.reading 0) r keys).touchedAt (d.clock.reading 1)
      .ok r' ⟨(d.vault.replace name r').touched, d.ids, d.clock.later.later⟩ := by
  have hall : ¬ (keys.all fun key => (r.field? key).isNone) = true := by
    simpa only [List.all_eq_true, Option.isNone_iff_eq_none, Record.field?_eq,
      findField_eq_none_iff, not_forall, not_not, exists_prop] using hkeys
  have hname : (dropFields (d.clock.reading 0) r keys).name = name :=
    (dropFields_name _ keys r).trans (name_of_find? hr)
  rw [deleteFields, bind_of_ok (ask_of_ok (live_of_find? hr)), bind_of_ok (look_eq d),
    if_neg hall, change_eq fun q _ hq => hq.trans hname]
  rfl

theorem deleteFields_of_free (hr : d.vault.find? name = none) (keys : List String) :
    deleteFields name keys d = .error (.recordNotFound name) d := by
  rw [deleteFields, bind_of_error (ask_of_error (live_of_free hr))]

theorem rename_of_free (hnew : new ≠ "") (hr : d.vault.find? old = some r)
    (hfree : d.vault.find? new = none) :
    rename old new d =
      let r' := (renamed (d.clock.reading 0) old new r).touchedAt (d.clock.reading 1)
      .ok r' ⟨(d.vault.replace old r').touched, d.ids, d.clock.later.later⟩ := by
  have hcontains : (!d.vault.contains new) = true := by rw [contains, hfree]; rfl
  have hothers : ∀ q ∈ d.vault.records, q.name = new → q.name = old := by
    rintro q hq rfl
    exact absurd (List.mem_map_of_mem hq) (find?_eq_none_iff.mp hfree)
  rw [rename, bind_of_ok (check_of_pos hnew _ d), bind_of_ok (ask_of_ok (live_of_find? hr)),
    bind_of_ok (see_eq _ d), bind_of_ok (check_of_pos hcontains _ d), bind_of_ok (look_eq d),
    change_eq hothers]
  rfl

theorem rename_of_not_free (hnot : ¬ (new ≠ "" ∧ (∃ r, d.vault.find? old = some r) ∧
    d.vault.find? new = none)) (now : Timestamp) :
    ∃ e, d.vault.rename now old new = .error e ∧ rename old new d = .error e d := by
  rw [rename_eq]
  by_cases hnew : new = ""
  · exact ⟨_, if_pos hnew, by rw [rename, bind_of_error (check_of_neg (not_not.mpr hnew) _ d)]⟩
  rw [if_neg hnew, rename, bind_of_ok (check_of_pos hnew _ d)]
  cases hr : d.vault.find? old with
  | none => exact ⟨_, rfl, by rw [bind_of_error (ask_of_error (live_of_free hr))]⟩
  | some r =>
    have hcontains : d.vault.contains new = true := by
      rw [contains, Option.isSome_iff_ne_none]
      exact fun hfree => hnot ⟨hnew, ⟨r, hr⟩, hfree⟩
    have hcheck : ¬ (!d.vault.contains new) = true := by rw [hcontains]; decide
    refine ⟨_, if_pos hcontains, ?_⟩
    rw [bind_of_ok (ask_of_ok (live_of_find? hr)), bind_of_ok (see_eq _ d),
      bind_of_error (check_of_neg hcheck _ d)]

/-! ### Imports -/

theorem applyEntry_of_ok {entry : ImportEntry}
    (h : set entry.spec.name entry.spec.fields d = .ok r d') : applyEntry entry d = .ok none d' := by
  simp only [applyEntry, tryCatch, tryCatchThe, MonadExceptOf.tryCatch, EStateM.tryCatch,
    map_of_ok h]

/-- Whatever is wrong with the name or the fields of an entry, it is caught. -/
theorem applyEntry_of_error {entry : ImportEntry} (he : e.IsInvalid)
    (h : set entry.spec.name entry.spec.fields d = .error e d) :
    applyEntry entry d = .ok (some ⟨entry.line, .rejected e⟩) d := by
  simp only [applyEntry, tryCatch, tryCatchThe, MonadExceptOf.tryCatch, EStateM.tryCatch,
    map_of_error h]
  cases e with
  | emptyName | emptyKey | repeatedKey => rfl
  | _ => contradiction

end Course

/-! ### At one moment -/

section Still

variable {now : Timestamp} {v : Vault} {ids : IdSource}

/-- How a course ends on a desk whose clock stands still, by what the operation yields at once. -/
def settled {α : Type} (now : Timestamp) (v : Vault) (ids : IdSource) :
    Except VaultError (α × Vault × IdSource) → EStateM.Result VaultError Desk α
  | .ok (a, v', ids') => .ok a ⟨v', ids', .still now⟩
  | .error e => .error e ⟨v, ids, .still now⟩

/-- A record that was made at the moment it is stored has that time already. -/
theorem storeFields_blank (name : String) (id : Uuid) (now : Timestamp) (fs : List Field) :
    (storeFields now (.blank name id now) fs).touchedAt now =
      storeFields now (.blank name id now) fs := by
  have htime : (storeFields now (.blank name id now) fs).updatedAt = now :=
    storeFields_induction now fs (.blank name id now) (P := fun r => r.updatedAt = now)
      (fun _ _ _ h => h) (fun _ _ h => h) rfl
  generalize storeFields now (.blank name id now) fs = r at htime
  cases htime
  rfl

namespace Course

theorem set_still (now : Timestamp) (v : Vault) (ids : IdSource) (name : String)
    (fields : List Field) :
    set name fields ⟨v, ids, .still now⟩ = settled now v ids (v.set now ids name fields) := by
  by_cases hs : Storable name fields
  · rw [Vault.set_of_storable now v ids hs]
    cases hr : v.find? name with
    | some r => exact set_of_find? (d := ⟨v, ids, .still now⟩) hs hr
    | none =>
      dsimp only
      rw [← storeFields_blank]
      exact set_of_free (d := ⟨v, ids, .still now⟩) hs hr
  · obtain ⟨e, -, hset, hcourse⟩ := set_of_not_storable now ⟨v, ids, .still now⟩ hs
    rw [hcourse, hset]
    rfl

theorem delete_still (name : String) :
    delete name ⟨v, ids, .still now⟩ =
      settled now v ids ((v.delete now name).map fun (r, v) => (r, v, ids)) := by
  rw [delete_eq]
  cases hr : v.find? name with
  | some r => exact delete_of_find? (d := ⟨v, ids, .still now⟩) hr
  | none => exact delete_of_free (d := ⟨v, ids, .still now⟩) hr

theorem deleteFields_still (name : String) (keys : List String) :
    deleteFields name keys ⟨v, ids, .still now⟩ =
      settled now v ids ((v.deleteFields now name keys).map fun (r, v) => (r, v, ids)) := by
  rw [deleteFields_eq]
  cases hr : v.find? name with
  | some r =>
    dsimp only
    by_cases hidle : ∀ k ∈ keys, k ∉ fieldKeys r.fields
    · rw [if_pos hidle]
      exact deleteFields_of_idle (d := ⟨v, ids, .still now⟩) hr hidle
    · rw [if_neg hidle]
      exact deleteFields_of_mem (d := ⟨v, ids, .still now⟩) hr (by simpa using hidle)
  | none => exact deleteFields_of_free (d := ⟨v, ids, .still now⟩) hr keys

theorem rename_still (old new : String) :
    rename old new ⟨v, ids, .still now⟩ =
      settled now v ids ((v.rename now old new).map fun (r, v) => (r, v, ids)) := by
  by_cases hok : new ≠ "" ∧ (∃ r, v.find? old = some r) ∧ v.find? new = none
  · obtain ⟨hnew, ⟨r, hr⟩, hfree⟩ := hok
    have hcontains : ¬ v.contains new = true := by rw [contains, hfree]; decide
    rw [rename_eq, if_neg hnew, hr]
    dsimp only
    rw [if_neg hcontains]
    exact rename_of_free (d := ⟨v, ids, .still now⟩) hnew hr hfree
  · obtain ⟨e, hrename, hcourse⟩ := rename_of_not_free (d := ⟨v, ids, .still now⟩) hok now
    rw [hcourse, hrename]
    rfl

theorem importEntries_still (entries : List ImportEntry) :
    importEntries entries ⟨v, ids, .still now⟩ =
      settled now v ids (.ok (v.importEntries now ids entries)) := by
  induction entries generalizing v ids with
  | nil => rfl
  | cons e entries ih =>
    rw [importEntries, Vault.importEntries]
    by_cases hs : Storable e.spec.name e.spec.fields
    · have hset := set_still now v ids e.spec.name e.spec.fields
      rw [Vault.set_of_storable now v ids hs] at hset ⊢
      rw [bind_of_ok (applyEntry_of_ok hset), bind_of_ok ih]
      rfl
    · obtain ⟨f, hinvalid, hset, hcourse⟩ := set_of_not_storable now ⟨v, ids, .still now⟩ hs
      rw [bind_of_ok (applyEntry_of_error hinvalid hcourse), bind_of_ok ih, hset]
      rfl

end Course

/-- **At one moment, the course of an operation comes to what the operation yields.** If the
operation fails, so does its course, with the same error, and everything on the desk is as before. -/
theorem Operation.course_still (op : Operation) :
    op.course ⟨v, ids, .still now⟩ = settled now v ids (op.atOnce now v ids) := by
  -- Each course is that of a call of its own, with the result put among those of all operations.
  have hmap : ∀ {α β : Type} {x : Course α} {y : Except VaultError (α × Vault × IdSource)}
      (f : α → β), x ⟨v, ids, .still now⟩ = settled now v ids y →
      (f <$> x) ⟨v, ids, .still now⟩ = settled now v ids (y.map fun (a, st) => (f a, st)) := by
    intro α β x y f h
    cases y with
    | ok p => exact Course.map_of_ok h
    | error e => exact Course.map_of_error h
  have hnest : ∀ {α β γ : Type} (y : Except VaultError α) (f : α → β) (g : β → γ),
      (y.map f).map g = y.map (g ∘ f) := by
    intro α β γ y f g
    cases y <;> rfl
  cases op with
  | call c =>
    cases c with
    | set name fields => exact hmap _ (Course.set_still now v ids name fields)
    | delete name => exact (hmap _ (Course.delete_still name)).trans (by rw [hnest]; rfl)
    | deleteFields name keys =>
      exact (hmap _ (Course.deleteFields_still name keys)).trans (by rw [hnest]; rfl)
    | rename old new => exact (hmap _ (Course.rename_still old new)).trans (by rw [hnest]; rfl)
    | importEntries entries => exact hmap _ (Course.importEntries_still entries)
  | ask q =>
    rw [course, Course.ask, atOnce]
    cases q.answer v <;> rfl

theorem deskAfter_still (now : Timestamp) (v : Vault) (ids : IdSource) (c : Call) :
    deskAfter ((Operation.call c).course ⟨v, ids, .still now⟩) =
      ⟨(perform now (v, ids) c).1, (perform now (v, ids) c).2, .still now⟩ := by
  rw [Operation.course_still]
  cases c with
  | set name fields =>
    rw [Operation.atOnce, perform]
    cases v.set now ids name fields <;> rfl
  | delete name =>
    rw [Operation.atOnce, perform]
    cases v.delete now name <;> rfl
  | deleteFields name keys =>
    rw [Operation.atOnce, perform]
    cases v.deleteFields now name keys <;> rfl
  | rename old new =>
    rw [Operation.atOnce, perform]
    cases v.rename now old new <;> rfl
  | importEntries entries => rfl

end Still

/-! ### Turns -/

/-- What a call that is no import does on a desk, if it does not stop. -/
inductive Turn (d : Desk) : Call → Desk → Prop where
  | created {name : String} {fields : List Field} : Storable name fields →
      d.vault.find? name = none →
      Turn d (.set name fields) ⟨touched { d.vault with records := d.vault.records ++
        [(storeFields (d.clock.reading 2) ((Record.blank name d.ids.next.1
          (d.clock.reading 0)).touchedAt (d.clock.reading 1)) fields).touchedAt
            (d.clock.reading 3)] }, d.ids.next.2, d.clock.later.later.later.later⟩
  | stored {name : String} {fields : List Field} {r : Record} : Storable name fields →
      d.vault.find? name = some r →
      Turn d (.set name fields) ⟨(d.vault.replace name
        ((storeFields (d.clock.reading 0) r fields).touchedAt (d.clock.reading 1))).touched,
          d.ids, d.clock.later.later⟩
  | deleted {name : String} {r : Record} : d.vault.find? name = some r →
      Turn d (.delete name) ⟨touched { d.vault with
        records := d.vault.records.filter (·.name ≠ name)
        tombstones := d.vault.tombstones ++
          [(buried (d.clock.reading 0) r).touchedAt (d.clock.reading 1)] },
        d.ids, d.clock.later.later⟩
  | passed {name : String} {keys : List String} {r : Record} : d.vault.find? name = some r →
      (∀ k ∈ keys, k ∉ fieldKeys r.fields) →
      Turn d (.deleteFields name keys) { d with clock := d.clock.later }
  | dropped {name : String} {keys : List String} {r : Record} : d.vault.find? name = some r →
      (∃ k ∈ keys, k ∈ fieldKeys r.fields) →
      Turn d (.deleteFields name keys) ⟨(d.vault.replace name
        ((dropFields (d.clock.reading 0) r keys).touchedAt (d.clock.reading 1))).touched,
          d.ids, d.clock.later.later⟩
  | renamed {old new : String} {r : Record} : new ≠ "" → d.vault.find? old = some r →
      d.vault.find? new = none →
      Turn d (.rename old new) ⟨(d.vault.replace old
        ((renamed (d.clock.reading 0) old new r).touchedAt (d.clock.reading 1))).touched,
          d.ids, d.clock.later.later⟩

/-- A call that is no import stops before it has written anything, or takes a turn. -/
theorem Call.course_cases (d : Desk) {c : Call} (hc : c.isImport = false) :
    (∃ e, c.course d = .error e d) ∨ ∃ a d', c.course d = .ok a d' ∧ Turn d c d' := by
  cases c with
  | set name fields =>
    by_cases hs : Storable name fields
    · right
      cases hr : d.vault.find? name with
      | some r => exact ⟨_, _, Course.map_of_ok (Course.set_of_find? hs hr), .stored hs hr⟩
      | none => exact ⟨_, _, Course.map_of_ok (Course.set_of_free hs hr), .created hs hr⟩
    · obtain ⟨e, -, -, hcourse⟩ := Course.set_of_not_storable (d.clock.reading 0) d hs
      exact .inl ⟨e, Course.map_of_error hcourse⟩
  | delete name =>
    cases hr : d.vault.find? name with
    | some r => exact .inr ⟨_, _, Course.map_of_ok (Course.delete_of_find? hr), .deleted hr⟩
    | none => exact .inl ⟨_, Course.map_of_error (Course.delete_of_free hr)⟩
  | deleteFields name keys =>
    cases hr : d.vault.find? name with
    | some r =>
      right
      by_cases hidle : ∀ k ∈ keys, k ∉ fieldKeys r.fields
      · exact ⟨_, _, Course.map_of_ok (Course.deleteFields_of_idle hr hidle), .passed hr hidle⟩
      · have hsome : ∃ k ∈ keys, k ∈ fieldKeys r.fields := by simpa using hidle
        exact ⟨_, _, Course.map_of_ok (Course.deleteFields_of_mem hr hsome), .dropped hr hsome⟩
    | none => exact .inl ⟨_, Course.map_of_error (Course.deleteFields_of_free hr keys)⟩
  | rename old new =>
    by_cases hok : new ≠ "" ∧ (∃ r, d.vault.find? old = some r) ∧ d.vault.find? new = none
    · obtain ⟨hnew, ⟨r, hr⟩, hfree⟩ := hok
      exact .inr ⟨_, _, Course.map_of_ok (Course.rename_of_free hnew hr hfree),
        .renamed hnew hr hfree⟩
    · obtain ⟨e, -, hcourse⟩ := Course.rename_of_not_free hok (d.clock.reading 0)
      exact .inl ⟨e, Course.map_of_error hcourse⟩
  | importEntries entries => cases hc

/-- An import never stops, and takes a turn for every entry it counts. -/
theorem Course.importEntries_induction {P : Nat → Desk → Prop}
    (turn : ∀ n d name fields d', P n d → Turn d (.set name fields) d' → P (n + 1) d') :
    ∀ (entries : List ImportEntry) (n : Nat) (d : Desk), P n d →
      ∃ report d', importEntries entries d = .ok report d' ∧ P (n + report.imported) d'
  | [], n, d, h => ⟨_, d, rfl, h⟩
  | e :: entries, n, d, h => by
    rw [importEntries]
    by_cases hs : Storable e.spec.name e.spec.fields
    · obtain ⟨a, d', hset, hturn⟩ : ∃ a d', set e.spec.name e.spec.fields d = .ok a d' ∧
          Turn d (.set e.spec.name e.spec.fields) d' := by
        cases hr : d.vault.find? e.spec.name with
        | some r => exact ⟨_, _, set_of_find? hs hr, .stored hs hr⟩
        | none => exact ⟨_, _, set_of_free hs hr, .created hs hr⟩
      obtain ⟨report, d'', himport, hP⟩ :=
        importEntries_induction turn entries (n + 1) d' (turn n d _ _ d' h hturn)
      have hcount : n + 1 + report.imported = n + (report.imported + 1) := by omega
      rw [hcount] at hP
      rw [bind_of_ok (applyEntry_of_ok hset), bind_of_ok himport]
      exact ⟨{ report with imported := report.imported + 1 }, d'', rfl, hP⟩
    · obtain ⟨f, hinvalid, -, hcourse⟩ := set_of_not_storable (d.clock.reading 0) d hs
      obtain ⟨report, d'', himport, hP⟩ := importEntries_induction turn entries n d h
      rw [bind_of_ok (applyEntry_of_error hinvalid hcourse), bind_of_ok himport]
      exact ⟨{ report with failures := ⟨e.line, .rejected f⟩ :: report.failures }, d'', rfl, hP⟩

/-- What every turn keeps, every operation keeps, whether it is carried out or not. -/
theorem Operation.after_induction {P : Desk → Prop}
    (turn : ∀ d c d', P d → Turn d c d' → P d') (op : Operation) (d : Desk) (h : P d) :
    P (deskAfter (op.course d)) := by
  cases op with
  | ask q =>
    rw [course, Course.ask]
    cases q.answer d.vault <;> exact h
  | call c =>
    obtain hc | ⟨entries, rfl⟩ := c.isImport_cases
    · rw [course]
      obtain ⟨e, hcourse⟩ | ⟨a, d', hcourse, hturn⟩ := Call.course_cases d hc
      · rw [hcourse]
        exact h
      · rw [hcourse]
        exact turn d c d' h hturn
    · obtain ⟨report, d', himport, hP⟩ := Course.importEntries_induction
        (P := fun _ => P) (fun _ d name fields d' => turn d (.set name fields) d') entries 0 d h
      rw [course, Call.course, Course.map_of_ok himport]
      exact hP

end Vault

end Coffer
