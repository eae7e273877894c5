import Coffer.Proofs.Json.Readable
import Coffer.Proofs.Time.Timestamp
import Coffer.Proofs.Uuid
import Coffer.Proofs.Vault.Fields
import Coffer.Record.Dump
import Coffer.Record.Load

/-!
A written record can be loaded again: `Record.load_dump`. This asks for distinct keys and moments
that can be written (`Record.IsRegular`), and whatever is loaded has them
(`Record.isRegular_of_load`). A record is sound (`Record.IsSound`) if its log entries keep, besides,
nothing but values that can be spelled as text; records that are loaded from such values are sound
themselves (`Record.isSound_of_load`).
-/

namespace Coffer

/-! ### Loading in steps -/

theorem of_bind_eq_ok {ε α β : Type} {x : Except ε α} {f : α → Except ε β} {b : β}
    (h : x >>= f = .ok b) : ∃ a, x = .ok a ∧ f a = .ok b := by
  cases x with
  | error e => contradiction
  | ok a => exact ⟨a, rfl, h⟩

theorem eq_ok_of_toOption {ε α : Type} {x : Except ε α} {a : α} (h : x.toOption = some a) :
    x = .ok a := by
  cases x with
  | error e => contradiction
  | ok b => exact congrArg Except.ok (Option.some.inj h)

theorem eq_ok_of_mapError {ε ε' α : Type} {f : ε → ε'} {x : Except ε α} {a : α}
    (h : x.mapError f = .ok a) : x = .ok a := by
  cases x with
  | error e => contradiction
  | ok b => exact congrArg Except.ok (Except.ok.inj h)

theorem mapM_map_eq_ok {ε α β : Type} {dump : α → β} {load : β → Except ε α} {xs : List α}
    (h : ∀ x ∈ xs, load (dump x) = .ok x) : (xs.map dump).mapM load = .ok xs := by
  induction xs with
  | nil => rfl
  | cons x xs ih =>
    rw [List.map_cons, List.mapM_cons, h x List.mem_cons_self,
      ih fun y hy => h y (List.mem_cons_of_mem x hy)]
    rfl

theorem forall₂_of_mapM_eq_ok {ε α β : Type} {load : β → Except ε α} : ∀ {vs : List β}
    {xs : List α}, vs.mapM load = .ok xs → List.Forall₂ (fun v x => load v = .ok x) vs xs
  | [], xs, h => by
    cases h
    exact .nil
  | v :: vs, xs, h => by
    rw [List.mapM_cons] at h
    obtain ⟨y, hy, h⟩ := of_bind_eq_ok h
    obtain ⟨ys, hys, h⟩ := of_bind_eq_ok h
    cases h
    exact .cons hy (forall₂_of_mapM_eq_ok hys)

theorem exists_of_mapM_eq_ok {ε α β : Type} {load : β → Except ε α} : ∀ {vs : List β}
    {xs : List α}, vs.mapM load = .ok xs → ∀ x ∈ xs, ∃ v ∈ vs, load v = .ok x
  | [], xs, h => by
    cases h
    exact nofun
  | v :: vs, xs, h => by
    rw [List.mapM_cons] at h
    obtain ⟨y, hy, h⟩ := of_bind_eq_ok h
    obtain ⟨ys, hys, h⟩ := of_bind_eq_ok h
    cases h
    refine List.forall_mem_cons.mpr ⟨⟨v, List.mem_cons_self, hy⟩, fun x hx => ?_⟩
    obtain ⟨w, hw, hload⟩ := exists_of_mapM_eq_ok hys x hx
    exact ⟨w, List.mem_cons_of_mem v hw, hload⟩

namespace Json

theorem Readable.member {v m : Json} {key : String} (h : v.Readable)
    (hm : v.member key = .ok m) : m.Readable := by
  unfold Json.member at hm
  split at hm
  · split at hm
    · next hget =>
      cases hm
      exact h.get? hget
    · contradiction
  · contradiction

theorem Readable.memberOr {v m default : Json} {key : String} (h : v.Readable)
    (hdefault : default.Readable) (hm : v.memberOr key default = .ok m) : m.Readable := by
  unfold Json.memberOr at hm
  split at hm
  · cases hm
    cases hget : Json.get? _ key with
    | none => exact hdefault
    | some m => exact h.get? hget
  · contradiction

theorem Readable.items {v : Json} {xs : List Json} (h : v.Readable) (hx : v.items = .ok xs) :
    ∀ x ∈ xs, x.Readable := by
  unfold Json.items at hx
  split at hx
  · cases hx
    rwa [Readable, readableItems_iff] at h
  · cases hx
    exact List.forall_mem_map.mpr fun _ _ => trivial
  · cases hx
    exact List.forall_mem_map.mpr fun _ _ => trivial
  · contradiction

end Json

/-! ### Fields -/

namespace Field

theorem readable_dump (f : Field) : f.dump.Readable := by
  rw [dump, Json.Readable, Json.readableMembers_iff]
  refine ⟨show ["key", "value", "sensitive"].Nodup by decide, ?_⟩
  simp only [List.forall_mem_cons]
  exact ⟨trivial, trivial, trivial, nofun⟩

theorem load_dump (f : Field) : load f.dump = .ok f := rfl

end Field

theorem readable_fields (fs : List Field) : (Json.arr (fs.map Field.dump)).Readable := by
  refine Json.readable_arr fun v hv => ?_
  obtain ⟨f, -, rfl⟩ := List.mem_map.mp hv
  exact f.readable_dump

theorem mapM_load_fields (fs : List Field) : (fs.map Field.dump).mapM Field.load = .ok fs :=
  mapM_map_eq_ok fun f _ => f.load_dump

/-! ### Moments and ids -/

theorem Timestamp.load_dump {t : Timestamp} (h : t.IsValid) : load t.dump = .ok t := by
  rw [dump, load, String.toList_ofList, ofText?_text h]

theorem Timestamp.isValid_of_load {v : Json} {t : Timestamp} (h : load v = .ok t) : t.IsValid := by
  unfold load at h
  split at h
  · split at h
    · next hread =>
      cases h
      exact isValid_of_ofText? hread
    · contradiction
  · contradiction

theorem Uuid.load_text (u : Uuid) : load (.str u.text) = .ok u := by
  rw [load, ofText?_text]

/-! ### Log entries -/

namespace HistoryEntry

/-- An entry that can be written and loaded again. -/
structure IsSound (e : HistoryEntry) : Prop where
  time : e.time.IsValid
  fieldKey : e.fieldKey.Readable
  priorValue : e.priorValue.Readable
  priorSensitive : e.priorSensitive.Readable

theorem Kind.load_label (k : Kind) : Kind.load (.str k.label) = .ok k := by
  cases k <;> rfl

variable {e : HistoryEntry}

/-! A member that is left out is taken for `null`, which is why it was left out. -/

theorem keys_memberIfPresent (key : String) (v : Json) :
    ((memberIfPresent key v).map Prod.fst).Sublist [key] := by
  unfold memberIfPresent
  split
  · exact List.Sublist.refl _
  · exact List.nil_sublist _

theorem readable_memberIfPresent {key : String} {v : Json} (hv : v.Readable) :
    ∀ m ∈ memberIfPresent key v, m.2.Readable := by
  unfold memberIfPresent
  split
  · exact List.forall_mem_singleton.mpr hv
  · exact nofun

theorem lookup_memberIfPresent (k key : String) (v : Json) :
    (memberIfPresent key v).lookup k = if k = key ∧ v.isPresent then some v else none := by
  unfold memberIfPresent
  by_cases hv : v.isPresent
  · by_cases hk : k = key
    · simp [hv, hk]
    · simp [hv, hk, List.lookup, beq_eq_false_iff_ne.mpr hk]
  · simp [hv]

theorem getD_isPresent (v : Json) : (if v.isPresent then some v else none).getD .null = v := by
  cases v <;> rfl

def snapshotMembers (fs : List Field) : List (String × Json) :=
  if fs.isEmpty then [] else [("snapshot", .arr (fs.map Field.dump))]

theorem lookup_snapshotMembers (k : String) (fs : List Field) :
    (snapshotMembers fs).lookup k =
      if k = "snapshot" ∧ fs ≠ [] then some (.arr (fs.map Field.dump)) else none := by
  unfold snapshotMembers
  cases fs with
  | nil => simp
  | cons f fs =>
    by_cases hk : k = "snapshot"
    · simp [hk]
    · simp [hk, List.lookup, beq_eq_false_iff_ne.mpr hk]

theorem dump_eq (e : HistoryEntry) : e.dump =
    .obj ([("timestamp", e.time.dump), ("kind", .str e.kind.label)] ++
      memberIfPresent "field_key" e.fieldKey ++ memberIfPresent "prior_value" e.priorValue ++
      memberIfPresent "prior_sensitive" e.priorSensitive ++ snapshotMembers e.snapshot) := rfl

theorem readable_dump (h : e.IsSound) : e.dump.Readable := by
  have hkeys : ((snapshotMembers e.snapshot).map Prod.fst).Sublist ["snapshot"] := by
    unfold snapshotMembers
    split
    · exact List.nil_sublist _
    · exact List.Sublist.refl _
  have hsnapshot : ∀ m ∈ snapshotMembers e.snapshot, m.2.Readable := by
    unfold snapshotMembers
    split
    · exact nofun
    · exact List.forall_mem_singleton.mpr (readable_fields e.snapshot)
  rw [dump_eq, Json.Readable, Json.readableMembers_iff]
  constructor
  · have hsub := ((((List.Sublist.refl ["timestamp", "kind"]).append
      (keys_memberIfPresent "field_key" e.fieldKey)).append
      (keys_memberIfPresent "prior_value" e.priorValue)).append
      (keys_memberIfPresent "prior_sensitive" e.priorSensitive)).append hkeys
    simp only [List.map_append]
    exact hsub.nodup (by decide)
  · simp only [List.forall_mem_append, List.forall_mem_cons]
    exact ⟨⟨⟨⟨⟨trivial, trivial, nofun⟩, readable_memberIfPresent h.fieldKey⟩,
      readable_memberIfPresent h.priorValue⟩, readable_memberIfPresent h.priorSensitive⟩, hsnapshot⟩

theorem load_dump (h : e.time.IsValid) : load e.dump = .ok e := by
  have htime : e.dump.member "timestamp" = .ok e.time.dump := rfl
  have hkind : e.dump.member "kind" = .ok (.str e.kind.label) := rfl
  have hkey : e.dump.memberOr "field_key" .null = .ok e.fieldKey := by
    simp [dump_eq, Json.memberOr, Json.get?, List.lookup_append, lookup_memberIfPresent,
      lookup_snapshotMembers, List.lookup, getD_isPresent]
  have hvalue : e.dump.memberOr "prior_value" .null = .ok e.priorValue := by
    simp [dump_eq, Json.memberOr, Json.get?, List.lookup_append, lookup_memberIfPresent,
      lookup_snapshotMembers, List.lookup, getD_isPresent]
  have hsensitive : e.dump.memberOr "prior_sensitive" .null = .ok e.priorSensitive := by
    simp [dump_eq, Json.memberOr, Json.get?, List.lookup_append, lookup_memberIfPresent,
      lookup_snapshotMembers, List.lookup, getD_isPresent]
  have hsnapshot : e.dump.memberOr "snapshot" (.arr []) =
      .ok (.arr (e.snapshot.map Field.dump)) := by
    simp [dump_eq, Json.memberOr, Json.get?, List.lookup_append, lookup_memberIfPresent,
      lookup_snapshotMembers, List.lookup]
    cases e.snapshot <;> rfl
  unfold load
  rw [htime, hkind, hkey, hvalue, hsensitive, hsnapshot]
  simp only [bind, Except.bind, Timestamp.load_dump h, Kind.load_label, Json.items,
    mapM_load_fields]
  rfl

theorem isValid_of_load {v : Json} (h : load v = .ok e) : e.time.IsValid := by
  obtain ⟨_, -, h⟩ := of_bind_eq_ok h
  obtain ⟨time, htime, h⟩ := of_bind_eq_ok h
  obtain ⟨_, -, h⟩ := of_bind_eq_ok h
  obtain ⟨_, -, h⟩ := of_bind_eq_ok h
  obtain ⟨_, -, h⟩ := of_bind_eq_ok h
  obtain ⟨_, -, h⟩ := of_bind_eq_ok h
  obtain ⟨_, -, h⟩ := of_bind_eq_ok h
  obtain ⟨_, -, h⟩ := of_bind_eq_ok h
  obtain ⟨_, -, h⟩ := of_bind_eq_ok h
  obtain ⟨_, -, h⟩ := of_bind_eq_ok h
  cases h
  exact Timestamp.isValid_of_load htime

theorem isSound_of_load {v : Json} (hv : v.Readable) (h : load v = .ok e) : e.IsSound := by
  obtain ⟨m, hm, h⟩ := of_bind_eq_ok h
  obtain ⟨time, htime, h⟩ := of_bind_eq_ok h
  obtain ⟨l, hl, h⟩ := of_bind_eq_ok h
  obtain ⟨kind, hkind, h⟩ := of_bind_eq_ok h
  obtain ⟨fieldKey, hfieldKey, h⟩ := of_bind_eq_ok h
  obtain ⟨priorValue, hvalue, h⟩ := of_bind_eq_ok h
  obtain ⟨priorSensitive, hsensitive, h⟩ := of_bind_eq_ok h
  obtain ⟨_, -, h⟩ := of_bind_eq_ok h
  obtain ⟨_, -, h⟩ := of_bind_eq_ok h
  obtain ⟨snapshot, -, h⟩ := of_bind_eq_ok h
  cases h
  have hnull : Json.Readable .null := trivial
  exact ⟨Timestamp.isValid_of_load htime, hv.memberOr hnull hfieldKey, hv.memberOr hnull hvalue,
    hv.memberOr hnull hsensitive⟩

end HistoryEntry

/-! ### Records -/

namespace Record

/-- A record that is loaded from its written form as it was. -/
structure IsRegular (r : Record) : Prop where
  keys : (fieldKeys r.fields).Nodup
  history : ∀ e ∈ r.history, e.time.IsValid
  createdAt : r.createdAt.IsValid
  updatedAt : r.updatedAt.IsValid

/-- A record that can be spelled as text and loaded again. -/
structure IsSound (r : Record) : Prop where
  keys : (fieldKeys r.fields).Nodup
  history : ∀ e ∈ r.history, e.IsSound
  createdAt : r.createdAt.IsValid
  updatedAt : r.updatedAt.IsValid

variable {r : Record}

theorem IsSound.isRegular (h : r.IsSound) : r.IsRegular :=
  ⟨h.keys, fun e he => (h.history e he).time, h.createdAt, h.updatedAt⟩

theorem readable_dump (h : r.IsSound) : r.dump.Readable := by
  have hhistory : (Json.arr (r.history.map HistoryEntry.dump)).Readable := by
    refine Json.readable_arr fun v hv => ?_
    obtain ⟨e, he, rfl⟩ := List.mem_map.mp hv
    exact HistoryEntry.readable_dump (h.history e he)
  rw [dump, Json.Readable, Json.readableMembers_iff]
  refine ⟨show ["id", "name", "fields", "history", "created_at", "updated_at"].Nodup by decide, ?_⟩
  simp only [List.forall_mem_cons]
  exact ⟨trivial, trivial, readable_fields r.fields, hhistory, trivial, trivial, nofun⟩

theorem load_dump (h : r.IsRegular) : load r.dump = .ok r := by
  have hfields : r.dump.memberOr "fields" (.arr []) = .ok (.arr (r.fields.map Field.dump)) := rfl
  have hname : r.dump.member "name" = .ok (.str r.name) := rfl
  have hid : r.dump.member "id" = .ok (.str r.id.text) := rfl
  have hhistory : r.dump.memberOr "history" (.arr []) =
      .ok (.arr (r.history.map HistoryEntry.dump)) := rfl
  have hcreated : r.dump.member "created_at" = .ok r.createdAt.dump := rfl
  have hupdated : r.dump.member "updated_at" = .ok r.updatedAt.dump := rfl
  have hentries : (r.history.map HistoryEntry.dump).mapM HistoryEntry.load = .ok r.history :=
    mapM_map_eq_ok fun e he => HistoryEntry.load_dump (h.history e he)
  unfold load
  rw [hfields, hname, hid, hhistory, hcreated, hupdated]
  simp only [bind, Except.bind, Json.items, mapM_load_fields, Uuid.load_text, hentries,
    Timestamp.load_dump h.createdAt, Timestamp.load_dump h.updatedAt, mergeFields_of_nodup h.keys]
  rfl

theorem exists_of_load {v : Json} (h : load v = .ok r) :
    ∃ list items, v.memberOr "history" (.arr []) = .ok list ∧ list.items = .ok items ∧
      items.mapM HistoryEntry.load = .ok r.history ∧ (∃ fields, r.fields = mergeFields fields) ∧
      (∃ created, Timestamp.load created = .ok r.createdAt) ∧
      ∃ updated, Timestamp.load updated = .ok r.updatedAt := by
  obtain ⟨_, -, h⟩ := of_bind_eq_ok h
  obtain ⟨_, -, h⟩ := of_bind_eq_ok h
  obtain ⟨fields, -, h⟩ := of_bind_eq_ok h
  obtain ⟨name, -, h⟩ := of_bind_eq_ok h
  obtain ⟨_, -, h⟩ := of_bind_eq_ok h
  obtain ⟨id, -, h⟩ := of_bind_eq_ok h
  obtain ⟨list, hlist, h⟩ := of_bind_eq_ok h
  obtain ⟨items, hitems, h⟩ := of_bind_eq_ok h
  obtain ⟨history, hhistory, h⟩ := of_bind_eq_ok h
  obtain ⟨created, -, h⟩ := of_bind_eq_ok h
  obtain ⟨createdAt, hcreated, h⟩ := of_bind_eq_ok h
  obtain ⟨updated, -, h⟩ := of_bind_eq_ok h
  obtain ⟨updatedAt, hupdated, h⟩ := of_bind_eq_ok h
  cases h
  exact ⟨list, items, hlist, hitems, hhistory, ⟨fields, rfl⟩, ⟨created, hcreated⟩,
    ⟨updated, hupdated⟩⟩

/-- Whatever is loaded is regular, since keys are merged and moments are checked on the way. -/
theorem isRegular_of_load {v : Json} (h : load v = .ok r) : r.IsRegular := by
  obtain ⟨list, items, -, -, hhistory, ⟨fields, hfields⟩, ⟨_, hcreated⟩, ⟨_, hupdated⟩⟩ :=
    exists_of_load h
  refine ⟨hfields ▸ nodup_mergeFields fields, fun e he => ?_,
    Timestamp.isValid_of_load hcreated, Timestamp.isValid_of_load hupdated⟩
  obtain ⟨w, -, hload⟩ := exists_of_mapM_eq_ok hhistory e he
  exact HistoryEntry.isValid_of_load hload

theorem isSound_of_load {v : Json} (hv : v.Readable) (h : load v = .ok r) : r.IsSound := by
  have hregular := isRegular_of_load h
  obtain ⟨list, items, hlist, hitems, hhistory, -⟩ := exists_of_load h
  refine ⟨hregular.keys, fun e he => ?_, hregular.createdAt, hregular.updatedAt⟩
  obtain ⟨w, hw, hload⟩ := exists_of_mapM_eq_ok hhistory e he
  have hempty : (Json.arr []).Readable := trivial
  exact HistoryEntry.isSound_of_load ((hv.memberOr hempty hlist).items hitems w hw) hload

end Record

end Coffer
