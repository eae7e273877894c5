import Coffer.Import
import Coffer.Proofs.Vault.Fields

/-!
Calls to a vault, and what they come to.

A `Call` is one use of an operation that may change a vault. `Vault.perform` carries it out and keeps
the old vault when it fails; `Vault.run` is the fold of many calls. `Vault.Step` says once what a
call that succeeds does: five ways to change a vault, each with all that was checked before. Every
call but an import either leaves the vault as it is or takes a step (`perform_cases`), and an import
is a run of such calls (`importEntries_eq_foldl`).
-/

namespace Coffer.Vault

/-- A use of an operation that may change a vault. -/
inductive Call where
  | set (name : String) (fields : List Field)
  | delete (name : String)
  | deleteFields (name : String) (keys : List String)
  | rename (old new : String)
  | importEntries (entries : List ImportEntry)
deriving DecidableEq, Repr

/-- The vault and the source of ids after a call. A call that fails changes neither. -/
def perform (now : Timestamp) (st : Vault × IdSource) : Call → Vault × IdSource
  | .set name fields =>
    match st.1.set now st.2 name fields with
    | .ok (_, v, ids) => (v, ids)
    | .error _ => st
  | .delete name =>
    match st.1.delete now name with
    | .ok (_, v) => (v, st.2)
    | .error _ => st
  | .deleteFields name keys =>
    match st.1.deleteFields now name keys with
    | .ok (_, v) => (v, st.2)
    | .error _ => st
  | .rename old new =>
    match st.1.rename now old new with
    | .ok (_, v) => (v, st.2)
    | .error _ => st
  | .importEntries entries => (st.1.importEntries now st.2 entries).2

/-- The vault and the source of ids after calls, each at its own moment. -/
def run (start : Vault × IdSource) (calls : List (Timestamp × Call)) : Vault × IdSource :=
  calls.foldl (fun st c => perform c.1 st c.2) start

/-! ### Checks -/

theorem checkFields_eq_ok_iff : ∀ (fs : List Field) (seen : List String),
    checkFields seen fs = .ok () ↔
      "" ∉ fieldKeys fs ∧ (fieldKeys fs).Nodup ∧ ∀ k ∈ fieldKeys fs, k ∉ seen
  | [], seen => by simp [checkFields, fieldKeys]
  | f :: fs, seen => by
    have ih := checkFields_eq_ok_iff fs (f.key :: seen)
    simp only [fieldKeys, checkFields, List.map_cons, List.mem_cons, not_or, List.nodup_cons,
      forall_eq_or_imp] at ih ⊢
    by_cases hempty : f.key = ""
    · simp [hempty]
    by_cases hseen : f.key ∈ seen
    · simp [hempty, hseen]
    rw [if_neg hempty, if_neg hseen, ih]
    constructor
    · rintro ⟨h1, h2, h3⟩
      exact ⟨⟨fun h => hempty h.symm, h1⟩, ⟨fun h => (h3 _ h).1 rfl, h2⟩, hseen,
        fun k hk => (h3 k hk).2⟩
    · rintro ⟨⟨_, h1⟩, ⟨h2, h3⟩, _, h4⟩
      exact ⟨h1, h3, fun k hk => ⟨fun h => h2 (h ▸ hk), h4 k hk⟩⟩

/-- What a name and fields to be stored under it must satisfy. -/
def Storable (name : String) (fs : List Field) : Prop :=
  name ≠ "" ∧ "" ∉ fieldKeys fs ∧ (fieldKeys fs).Nodup

instance (name : String) (fs : List Field) : Decidable (Storable name fs) :=
  inferInstanceAs (Decidable (_ ∧ _ ∧ _))

theorem storable_of_keys {name : String} {fs : List Field} (hname : name ≠ "")
    (hkeys : ∀ f ∈ fs, f.key ≠ "") (hnodup : (fieldKeys fs).Nodup) : Storable name fs := by
  refine ⟨hname, fun hmem => ?_, hnodup⟩
  obtain ⟨f, hf, hkey⟩ := List.mem_map.mp hmem
  exact hkeys f hf hkey

theorem checkFields_nil {fs : List Field} :
    checkFields [] fs = .ok () ↔ "" ∉ fieldKeys fs ∧ (fieldKeys fs).Nodup := by
  simp [checkFields_eq_ok_iff]

/-! ### Steps -/

/-- A record as it is kept once it is deleted: its fields are in the last entry of its log. -/
def buried (now : Timestamp) (r : Record) : Record :=
  let entry : HistoryEntry := { time := now, kind := .recordDeleted, snapshot := r.fields }
  { r with fields := [], history := r.history ++ [entry], updatedAt := now }

/-- A record under a new name; the old one is in the last entry of its log. -/
def renamed (now : Timestamp) (old new : String) (r : Record) : Record :=
  let entry : HistoryEntry :=
    { time := now, kind := .recordRenamed, priorValue := .str old, priorSensitive := .bool false }
  { r with name := new, history := r.history ++ [entry], updatedAt := now }

/-- What a call that changes a vault does to it. -/
inductive Step (now : Timestamp) (v : Vault) : Call → Vault → Prop where
  | created {name : String} {fields : List Field} (id : Uuid) : Storable name fields →
      v.find? name = none → Step now v (.set name fields)
        (touched { v with records := v.records ++ [storeFields now (.blank name id now) fields] })
  | stored {name : String} {fields : List Field} {r : Record} : Storable name fields →
      v.find? name = some r → Step now v (.set name fields)
        (v.replace name { storeFields now r fields with updatedAt := now }).touched
  | deleted {name : String} {r : Record} : v.find? name = some r → Step now v (.delete name)
      (touched { v with
        records := v.records.filter (·.name ≠ name)
        tombstones := v.tombstones ++ [buried now r] })
  | dropped {name : String} {keys : List String} {r : Record} : v.find? name = some r →
      (∃ k ∈ keys, k ∈ fieldKeys r.fields) → Step now v (.deleteFields name keys)
        (v.replace name { dropFields now r keys with updatedAt := now }).touched
  | renamed {old new : String} {r : Record} : new ≠ "" → v.find? old = some r →
      v.find? new = none → Step now v (.rename old new)
        (v.replace old (renamed now old new r)).touched

/-- Why a call that is no import leaves a vault as it is. -/
inductive Idle (v : Vault) : Call → Prop where
  | set {name : String} {fields : List Field} : ¬ Storable name fields → Idle v (.set name fields)
  | delete {name : String} : v.find? name = none → Idle v (.delete name)
  | deleteFields {name : String} {keys : List String} :
      (∀ r, v.find? name = some r → ∀ k ∈ keys, k ∉ fieldKeys r.fields) →
      Idle v (.deleteFields name keys)
  | rename {old new : String} : (new = "" ∨ v.find? old = none ∨ v.find? new ≠ none) →
      Idle v (.rename old new)

theorem live_eq {v : Vault} {name : String} :
    v.live name = match v.find? name with
      | some r => .ok r
      | none => .error (.recordNotFound name) := rfl

theorem set_of_storable (now : Timestamp) (v : Vault) (ids : IdSource) {name : String}
    {fields : List Field} (hs : Storable name fields) :
    v.set now ids name fields = .ok (match v.find? name with
      | some r =>
        let r := { storeFields now r fields with updatedAt := now }
        (r, (v.replace name r).touched, ids)
      | none =>
        let r := storeFields now (.blank name ids.next.1 now) fields
        (r, touched { v with records := v.records ++ [r] }, ids.next.2)) := by
  obtain ⟨hname, hfields⟩ := hs
  simp only [Vault.set, hname, checkFields_nil.mpr hfields, if_false]
  cases v.find? name <;> rfl

theorem set_of_not_storable (now : Timestamp) (v : Vault) (ids : IdSource) {name : String}
    {fields : List Field} (hs : ¬ Storable name fields) :
    ∃ e, v.set now ids name fields = .error e := by
  by_cases hname : name = ""
  · exact ⟨_, by simp only [Vault.set, hname, if_true]; rfl⟩
  · cases hcheck : checkFields [] fields with
    | ok u => exact absurd ⟨hname, checkFields_nil.mp hcheck⟩ hs
    | error e => exact ⟨e, by simp only [Vault.set, hname, hcheck, if_false]; rfl⟩

theorem delete_eq (now : Timestamp) (v : Vault) (name : String) :
    v.delete now name = match v.find? name with
      | some r => .ok (buried now r, touched { v with
          records := v.records.filter (·.name ≠ name)
          tombstones := v.tombstones ++ [buried now r] })
      | none => .error (.recordNotFound name) := by
  rw [Vault.delete, live_eq]
  cases v.find? name <;> rfl

theorem deleteFields_eq (now : Timestamp) (v : Vault) (name : String) (keys : List String) :
    v.deleteFields now name keys = match v.find? name with
      | some r =>
        if ∀ k ∈ keys, k ∉ fieldKeys r.fields then .ok (r, v)
        else
          let r := { dropFields now r keys with updatedAt := now }
          .ok (r, (v.replace name r).touched)
      | none => .error (.recordNotFound name) := by
  rw [Vault.deleteFields, live_eq]
  cases v.find? name with
  | none => rfl
  | some r =>
    have hall : (keys.all fun key => (r.field? key).isNone) = true ↔
        ∀ k ∈ keys, k ∉ fieldKeys r.fields := by
      simp only [List.all_eq_true, Option.isNone_iff_eq_none, Record.field?_eq,
        findField_eq_none_iff]
    simp only [bind, Except.bind, hall]
    split <;> rfl

theorem rename_eq (now : Timestamp) (v : Vault) (old new : String) :
    v.rename now old new =
      if new = "" then .error .emptyName
      else match v.find? old with
        | some r =>
          if v.contains new then .error (.recordExists new)
          else .ok (renamed now old new r, (v.replace old (renamed now old new r)).touched)
        | none => .error (.recordNotFound old) := by
  rw [Vault.rename, live_eq]
  by_cases hnew : new = ""
  · rw [if_pos hnew, if_pos hnew]
    rfl
  · rw [if_neg hnew, if_neg hnew]
    cases v.find? old with
    | none => rfl
    | some r => cases v.contains new <;> rfl

/-- Setting fields changes the vault exactly if the name and the fields may be stored. -/
theorem set_cases (now : Timestamp) (v : Vault) (ids : IdSource) (name : String)
    (fields : List Field) :
    (Idle v (.set name fields) ∧ ∃ e, v.set now ids name fields = .error e) ∨
    ∃ r v' ids', Step now v (.set name fields) v' ∧
      v.set now ids name fields = .ok (r, v', ids') := by
  by_cases hs : Storable name fields
  · right
    rw [set_of_storable now v ids hs]
    cases hr : v.find? name with
    | some r => exact ⟨_, _, _, .stored hs hr, rfl⟩
    | none => exact ⟨_, _, _, .created _ hs hr, rfl⟩
  · exact .inl ⟨.set hs, set_of_not_storable now v ids hs⟩

theorem delete_cases (now : Timestamp) (v : Vault) (name : String) :
    (Idle v (.delete name) ∧ ∃ e, v.delete now name = .error e) ∨
    ∃ r v', Step now v (.delete name) v' ∧ v.delete now name = .ok (r, v') := by
  rw [delete_eq]
  cases hr : v.find? name with
  | none => exact .inl ⟨.delete hr, _, rfl⟩
  | some r => exact .inr ⟨_, _, .deleted hr, rfl⟩

theorem deleteFields_cases (now : Timestamp) (v : Vault) (name : String) (keys : List String) :
    (Idle v (.deleteFields name keys) ∧
      ((∃ e, v.deleteFields now name keys = .error e) ∨
        ∃ r, v.deleteFields now name keys = .ok (r, v))) ∨
    ∃ r v', Step now v (.deleteFields name keys) v' ∧
      v.deleteFields now name keys = .ok (r, v') := by
  rw [deleteFields_eq]
  cases hr : v.find? name with
  | none => exact .inl ⟨.deleteFields (by simp [hr]), .inl ⟨_, rfl⟩⟩
  | some r =>
    by_cases h : ∀ k ∈ keys, k ∉ fieldKeys r.fields
    · refine .inl ⟨.deleteFields (fun q hq => ?_), .inr ⟨r, if_pos h⟩⟩
      rw [hr] at hq
      cases hq
      exact h
    · have hsome : ∃ k ∈ keys, k ∈ fieldKeys r.fields := by simpa using h
      exact .inr ⟨_, _, .dropped hr hsome, if_neg h⟩

theorem rename_cases (now : Timestamp) (v : Vault) (old new : String) :
    (Idle v (.rename old new) ∧ ∃ e, v.rename now old new = .error e) ∨
    ∃ r v', Step now v (.rename old new) v' ∧ v.rename now old new = .ok (r, v') := by
  rw [rename_eq]
  by_cases hnew : new = ""
  · exact .inl ⟨.rename (.inl hnew), _, if_pos hnew⟩
  rw [if_neg hnew]
  cases hr : v.find? old with
  | none => exact .inl ⟨.rename (.inr (.inl hr)), _, rfl⟩
  | some r =>
    dsimp only
    rw [contains]
    cases hq : v.find? new with
    | some q => exact .inl ⟨.rename (.inr (.inr (by simp [hq]))), _, rfl⟩
    | none => exact .inr ⟨_, _, .renamed hnew hr hq, rfl⟩

/-! ### Names -/

@[simp]
theorem storeFields_name (now : Timestamp) : ∀ (fs : List Field) (r : Record),
    (storeFields now r fs).name = r.name
  | [], _ => rfl
  | f :: fs, r => by
    rw [storeFields, storeFields_name now fs]
    cases r.field? f.key with
    | none => rfl
    | some previous => dsimp only; split <;> rfl

@[simp]
theorem dropFields_name (now : Timestamp) : ∀ (keys : List String) (r : Record),
    (dropFields now r keys).name = r.name
  | [], _ => rfl
  | k :: keys, r => by
    rw [dropFields, dropFields_name now keys]
    cases r.field? k with
    | none => rfl
    | some previous => rfl

theorem name_of_find? {v : Vault} {name : String} {r : Record} (h : v.find? name = some r) :
    r.name = name := by
  simpa using List.find?_some h

theorem find?_eq_none_iff {v : Vault} {name : String} :
    v.find? name = none ↔ name ∉ v.names := by
  simp [find?, names]

/-- Replacing a record by one of a name that is free, or of the same name, leaves the names
distinct. -/
theorem nodup_replace {v : Vault} {name : String} {r : Record} (h : v.names.Nodup)
    (hr : r.name = name ∨ r.name ∉ v.names) : (v.replace name r).names.Nodup := by
  have hnames : (v.replace name r).names = v.names.map fun n => if n = name then r.name else n := by
    simp only [names, replace, List.map_map]
    refine List.map_congr_left fun q _ => ?_
    by_cases hq : q.name = name <;> simp [hq]
  rw [hnames]
  -- Either no name changes, or one of them becomes a name that no other record has.
  rcases hr with hr | hr
  · have hid : (fun n => if n = name then r.name else n) = id := by
      funext n
      by_cases hn : n = name <;> simp [hn, hr]
    rwa [hid, List.map_id]
  · refine List.pairwise_map.mpr (h.imp_of_mem ?_)
    intro a b ha hb hab
    by_cases han : a = name
    · by_cases hbn : b = name
      · exact absurd (han.trans hbn.symm) hab
      · rw [if_pos han, if_neg hbn]
        rintro rfl
        exact hr hb
    · rw [if_neg han]
      by_cases hbn : b = name
      · rw [if_pos hbn]
        rintro rfl
        exact hr ha
      · rwa [if_neg hbn]

theorem Step.nodup_names {now : Timestamp} {v v' : Vault} {c : Call} (h : Step now v c v')
    (hv : v.names.Nodup) : v'.names.Nodup := by
  cases h with
  | @created name fields id _ hfree =>
    have hname := find?_eq_none_iff.mp hfree
    have hnames : (storeFields now (.blank name id now) fields).name = name := by
      rw [storeFields_name]; rfl
    simp only [names, touched, List.map_append, List.map_cons, List.map_nil, hnames]
    refine List.nodup_append.mpr ⟨hv, by simp, ?_⟩
    rintro n hn _ hn' rfl
    exact hname (List.mem_singleton.mp hn' ▸ hn)
  | stored _ hr => exact nodup_replace hv (.inl (by simpa using name_of_find? hr))
  | deleted _ => exact (List.filter_sublist.map Record.name).nodup hv
  | dropped hr _ => exact nodup_replace hv (.inl (by simpa using name_of_find? hr))
  | renamed _ _ hfree => exact nodup_replace hv (.inr (find?_eq_none_iff.mp hfree))

/-! ### Imports -/

/-- An import sets the fields of its entries, one entry after the other. -/
theorem importEntries_eq_foldl (now : Timestamp) : ∀ (entries : List ImportEntry) (v : Vault)
    (ids : IdSource), (v.importEntries now ids entries).2 =
      entries.foldl (fun st e => perform now st (.set e.spec.name e.spec.fields)) (v, ids)
  | [], v, ids => rfl
  | e :: entries, v, ids => by
    rw [List.foldl_cons, importEntries, perform]
    cases h : v.set now ids e.spec.name e.spec.fields with
    | ok st =>
      obtain ⟨r, v', ids'⟩ := st
      simp only [← importEntries_eq_foldl now entries]
    | error f => simp only [← importEntries_eq_foldl now entries]

/-! ### All calls -/

def Call.isImport : Call → Bool
  | .importEntries _ => true
  | _ => false

theorem Call.isImport_cases (c : Call) :
    c.isImport = false ∨ ∃ entries, c = .importEntries entries := by
  cases c with
  | importEntries entries => exact .inr ⟨entries, rfl⟩
  | set | delete | deleteFields | rename => exact .inl rfl

/-- A call that is no import leaves everything as it is or takes a step. -/
theorem perform_cases (now : Timestamp) (st : Vault × IdSource) {c : Call}
    (hc : c.isImport = false) :
    (Idle st.1 c ∧ perform now st c = st) ∨ Step now st.1 c (perform now st c).1 := by
  obtain ⟨v, ids⟩ := st
  cases c with
  | set name fields =>
    rcases set_cases now v ids name fields with ⟨hi, e, h⟩ | ⟨r, v', ids', hs, h⟩
    · exact .inl ⟨hi, by simp only [perform, h]⟩
    · exact .inr (by simp only [perform, h]; exact hs)
  | delete name =>
    rcases delete_cases now v name with ⟨hi, e, h⟩ | ⟨r, v', hs, h⟩
    · exact .inl ⟨hi, by simp only [perform, h]⟩
    · exact .inr (by simp only [perform, h]; exact hs)
  | deleteFields name keys =>
    rcases deleteFields_cases now v name keys with ⟨hi, ⟨e, h⟩ | ⟨r, h⟩⟩ | ⟨r, v', hs, h⟩
    · exact .inl ⟨hi, by simp only [perform, h]⟩
    · exact .inl ⟨hi, by simp only [perform, h]⟩
    · exact .inr (by simp only [perform, h]; exact hs)
  | rename old new =>
    rcases rename_cases now v old new with ⟨hi, e, h⟩ | ⟨r, v', hs, h⟩
    · exact .inl ⟨hi, by simp only [perform, h]⟩
    · exact .inr (by simp only [perform, h]; exact hs)
  | importEntries entries => cases hc

theorem perform_induction {P : Vault → Prop} {now : Timestamp}
    (step : ∀ v c v', P v → Step now v c v' → P v') (st : Vault × IdSource) (c : Call)
    (h : P st.1) : P (perform now st c).1 := by
  have single : ∀ (st : Vault × IdSource) (c : Call), c.isImport = false → P st.1 →
      P (perform now st c).1 := by
    intro st c hc h
    rcases perform_cases now st hc with ⟨_, hidle⟩ | hs
    · rw [hidle]; exact h
    · exact step _ _ _ h hs
  obtain hc | ⟨entries, rfl⟩ := c.isImport_cases
  · exact single st c hc h
  · rw [perform, importEntries_eq_foldl]
    show P (List.foldl _ st entries).1
    induction entries generalizing st with
    | nil => exact h
    | cons e entries ih => exact ih _ (single st _ rfl h)

end Coffer.Vault
