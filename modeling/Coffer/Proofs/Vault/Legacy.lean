import Coffer.Proofs.Vault.Payload

/-!
What becomes of the simpler form, which files without a header hold. `Json.Describes j rs` says what
the value `j` tells about the records `rs`: they are the records of its list in order, each with the
name and the id that are given there and with the fields that are given there last for each key, the
keys in the order of their first places. Names, keys and values are whatever text a value shows as.

The relation speaks of the value and of the records only, not of the way from one to the other. Every
value that is loaded describes the records that it is loaded as, and these have no log, and none of
them is deleted (`describes_of_loadLegacy`).
-/

namespace Coffer

namespace Json

structure DescribesField (j : Json) (f : Field) : Prop where
  key : ∃ v, j.member "attr" = .ok v ∧ v.display = f.key
  value : ∃ v, j.member "value" = .ok v ∧ v.display = f.value
  sensitive : ∃ v, j.memberOr "sensitive" (.bool false) = .ok v ∧ v.isTruthy = f.sensitive

/-- The fields are those that are given last for each key, in the order in which the keys are given
first. -/
structure LastOfEach (given fs : List Field) : Prop where
  keys : fieldKeys fs = (fieldKeys given).eraseDups
  field : ∀ k, findField k fs = findField k given.reverse

structure DescribesRecord (j : Json) (r : Record) : Prop where
  name : ∃ v, j.member "name" = .ok v ∧ v.display = r.name
  id : ∃ v, j.member "id" = .ok v ∧ Uuid.ofText? v.display = some r.id
  fields : ∃ list items given, j.memberOr "fields" (.arr []) = .ok list ∧ list.items = .ok items ∧
    List.Forall₂ DescribesField items given ∧ LastOfEach given r.fields

/-- The list of records in the simpler form: the value itself, or a member of it. -/
def legacyList (j : Json) : Except LoadError Json :=
  match j with
  | .obj _ => j.memberOr "records" (.arr [])
  | _ => .ok j

/-- What a value in the simpler form tells about records. -/
def Describes (j : Json) (rs : List Record) : Prop :=
  ∃ list items, j.legacyList = .ok list ∧ list.items = .ok items ∧
    List.Forall₂ DescribesRecord items rs

end Json

namespace Vault

open Json

theorem lastOfEach_mergeFields (given : List Field) : LastOfEach given (mergeFields given) :=
  ⟨fieldKeys_mergeFields given, fun k => findField_mergeFields k given⟩

theorem describesField_of_loadLegacyField {j : Json} {f : Field} (h : loadLegacyField j = .ok f) :
    j.DescribesField f := by
  obtain ⟨key, hkey, h⟩ := of_bind_eq_ok h
  obtain ⟨value, hvalue, h⟩ := of_bind_eq_ok h
  obtain ⟨sensitive, hsensitive, h⟩ := of_bind_eq_ok h
  cases h
  exact ⟨⟨key, hkey, rfl⟩, ⟨value, hvalue, rfl⟩, ⟨sensitive, hsensitive, rfl⟩⟩

variable {now : Timestamp}

theorem describesRecord_of_loadLegacyRecord {j : Json} {r : Record}
    (h : loadLegacyRecord now j = .ok r) : j.DescribesRecord r ∧ r.history = [] := by
  obtain ⟨list, hlist, h⟩ := of_bind_eq_ok h
  obtain ⟨items, hitems, h⟩ := of_bind_eq_ok h
  obtain ⟨given, hgiven, h⟩ := of_bind_eq_ok h
  obtain ⟨name, hname, h⟩ := of_bind_eq_ok h
  obtain ⟨id, hid, h⟩ := of_bind_eq_ok h
  have hfields := (forall₂_of_mapM_eq_ok hgiven).imp fun _ _ => describesField_of_loadLegacyField
  cases huuid : Uuid.ofText? id.display with
  | none =>
    simp only [huuid] at h
    contradiction
  | some uuid =>
    simp only [huuid] at h
    cases h
    exact ⟨⟨⟨name, hname, rfl⟩, ⟨id, hid, huuid⟩,
      ⟨list, items, given, hlist, hitems, hfields, lastOfEach_mergeFields given⟩⟩, rfl⟩

theorem eq_of_addLegacyRecords : ∀ {items : List Record} (acc : List Record) {rs : List Record},
    addLegacyRecords acc items = .ok rs → rs = acc ++ items
  | [], acc, rs, h => by
    cases h
    exact (List.append_nil acc).symm
  | r :: items, acc, rs, h => by
    rw [addLegacyRecords] at h
    split at h
    · contradiction
    · rw [eq_of_addLegacyRecords _ h, List.append_assoc, List.singleton_append]

theorem loadLegacy_eq (now : Timestamp) (j : Json) : loadLegacy now j = do
    let list ← j.legacyList
    let records ← (← list.items).mapM (loadLegacyRecord now)
    return ⟨← addLegacyRecords [] records, [], 0⟩ := by
  cases j <;> rfl

/-- A vault from the simpler form has the records that are described there, without logs, and no
deleted ones. -/
theorem describes_of_loadLegacy {j : Json} {v : Vault} (h : loadLegacy now j = .ok v) :
    j.Describes v.records ∧ (∀ r ∈ v.records, r.history = []) ∧ v.tombstones = [] := by
  rw [loadLegacy_eq] at h
  obtain ⟨list, hlist, h⟩ := of_bind_eq_ok h
  obtain ⟨items, hitems, h⟩ := of_bind_eq_ok h
  obtain ⟨loaded, hloaded, h⟩ := of_bind_eq_ok h
  obtain ⟨records, hrecords, h⟩ := of_bind_eq_ok h
  cases h
  -- Doubles of a name are refused and not dropped, so no record is missing.
  obtain rfl : records = loaded := eq_of_addLegacyRecords [] hrecords
  refine ⟨⟨list, items, hlist, hitems, ?_⟩, ?_, rfl⟩
  · exact (forall₂_of_mapM_eq_ok hloaded).imp fun _ _ h => (describesRecord_of_loadLegacyRecord h).1
  · intro r hr
    obtain ⟨_, -, hr⟩ := exists_of_mapM_eq_ok hloaded r hr
    exact (describesRecord_of_loadLegacyRecord hr).2

end Vault

end Coffer
