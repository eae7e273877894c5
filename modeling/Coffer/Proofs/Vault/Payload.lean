import Coffer.Proofs.Bytes
import Coffer.Proofs.Record.RoundTrip
import Coffer.Proofs.Vault.Call
import Coffer.Vault.Payload

/-!
The contents of a vault file hold the vault: `ofPayload_payload`. Only the count of changes is not
kept. This holds for sound vaults (`Vault.IsSound`); vaults from a file are sound, in the simpler form
or not (`isSound_of_ofPayload`), and calls keep them so (`isSound_perform`). Calls that change a
vault also raise its count of changes (`follows_perform`), so that the count tells one state of a
vault from the others.
-/

namespace Coffer.Vault

/-- A vault that can be written and loaded again. -/
structure IsSound (v : Vault) : Prop where
  names : v.names.Nodup
  records : ∀ r ∈ v.records, r.IsSound
  tombstones : ∀ r ∈ v.tombstones, r.IsSound

theorem isSound_empty : empty.IsSound :=
  ⟨List.nodup_nil, nofun, nofun⟩

/-! ### Writing and loading -/

theorem readable_dumps {rs : List Record} (h : ∀ r ∈ rs, r.IsSound) :
    (Json.arr (rs.map Record.dump)).Readable := by
  refine Json.readable_arr fun v hv => ?_
  obtain ⟨r, hr, rfl⟩ := List.mem_map.mp hv
  exact Record.readable_dump (h r hr)

theorem addRecords_dumps : ∀ {rs : List Record} (acc : List Record), (∀ r ∈ rs, r.IsRegular) →
    ((acc ++ rs).map Record.name).Nodup →
    addRecords acc (rs.map Record.dump) = .ok (acc ++ rs)
  | [], acc, _, _ => by rw [List.map_nil, addRecords, List.append_nil]
  | r :: rs, acc, h, hnodup => by
    obtain ⟨hr, hrs⟩ := List.forall_mem_cons.mp h
    have hfree : ¬ acc.any (·.name == r.name) = true := by
      rw [List.any_eq_true]
      rintro ⟨q, hq, hname⟩
      rw [List.map_append, List.nodup_append] at hnodup
      exact hnodup.2.2 q.name (List.mem_map_of_mem hq) r.name (by simp) (by simpa using hname)
    have ih := addRecords_dumps (acc ++ [r]) hrs (by simpa using hnodup)
    rw [List.map_cons, addRecords, Record.load_dump hr]
    simp only [bind, Except.bind, hfree, Bool.false_eq_true, if_false, ih, List.append_assoc,
      List.singleton_append]

variable {v : Vault}

/-- The written form of the whole, as it is sealed. -/
def payloadJson (v : Vault) : Json :=
  .obj (("version", .int payloadVersion) :: v.members)

theorem readable_payloadJson (h : v.IsSound) : (payloadJson v).Readable := by
  have hversion : (Json.int payloadVersion).Readable := by
    rw [Json.Readable]
    exact Nat.one_lt_pow (by decide) (by decide)
  rw [payloadJson, members, Json.Readable, Json.readableMembers_iff]
  refine ⟨show ["version", "records", "tombstones"].Nodup by decide, ?_⟩
  simp only [List.forall_mem_cons]
  exact ⟨hversion, readable_dumps h.records, readable_dumps h.tombstones, nofun⟩

/-- A vault of regular records is loaded from its members as it was, but for the count of changes,
whatever other members stand beside them. -/
theorem load_of_members {j : Json} (hnames : v.names.Nodup) (hrecords : ∀ r ∈ v.records, r.IsRegular)
    (htombstones : ∀ r ∈ v.tombstones, r.IsRegular)
    (hlive : j.memberOr "records" (.arr []) = .ok (.arr (v.records.map Record.dump)))
    (hdead : j.memberOr "tombstones" (.arr []) = .ok (.arr (v.tombstones.map Record.dump))) :
    load j = .ok { v with revision := 0 } := by
  have hload : (v.tombstones.map Record.dump).mapM Record.load = .ok v.tombstones :=
    mapM_map_eq_ok fun r hr => Record.load_dump (htombstones r hr)
  have hadd := addRecords_dumps [] hrecords hnames
  unfold load
  rw [hlive, hdead]
  simp only [bind, Except.bind, Json.items, hadd, hload]
  rfl

theorem load_payloadJson (h : v.IsSound) : load (payloadJson v) = .ok { v with revision := 0 } :=
  load_of_members h.names (fun r hr => (h.records r hr).isRegular)
    (fun r hr => (h.tombstones r hr).isRegular) rfl rfl

/-- A vault is read from its contents as it was, but for the count of changes. -/
theorem ofPayload_payload (h : v.IsSound) (now : Timestamp) :
    ofPayload now false v.payload = .ok { v with revision := 0 } := by
  have hread := Json.read_print (readable_payloadJson h)
  have hload := load_payloadJson h
  rw [payloadJson] at hread hload
  simp only [ofPayload, payload, Bytes.toText?_ofText, String.toList_ofList, hread, hload]
  rfl

/-- Only the simpler form is read differently at different moments. -/
theorem ofPayload_now (now now' : Timestamp) (bs : Bytes) :
    ofPayload now false bs = ofPayload now' false bs := by
  unfold ofPayload
  cases Bytes.toText? bs with
  | none => rfl
  | some text =>
    dsimp only
    cases Json.read text.toList with
    | none => rfl
    | some v => cases v <;> rfl

/-! ### What is loaded -/

/-- Adding a record of a name that is not taken leaves the names distinct. -/
theorem nodup_names_append {acc : List Record} {r : Record} (h : (acc.map Record.name).Nodup)
    (hfree : ¬ acc.any (·.name == r.name) = true) : ((acc ++ [r]).map Record.name).Nodup := by
  rw [List.map_append, List.nodup_append]
  refine ⟨h, by simp, ?_⟩
  rintro n hn _ hn' rfl
  obtain ⟨q, hq, rfl⟩ := List.mem_map.mp hn
  rw [List.map_singleton, List.mem_singleton] at hn'
  exact hfree (List.any_eq_true.mpr ⟨q, hq, by simp [hn']⟩)

theorem forall_mem_append_singleton {P : Record → Prop} {acc : List Record} {r : Record}
    (h : ∀ q ∈ acc, P q) (hr : P r) : ∀ q ∈ acc ++ [r], P q :=
  List.forall_mem_append.mpr ⟨h, List.forall_mem_singleton.mpr hr⟩

/-- What is true of all records that are loaded is true of those that are added, and their names are
distinct. -/
theorem forall_of_addRecords {P : Record → Prop} : ∀ {items : List Json} (acc : List Record)
    {rs : List Record}, (∀ v ∈ items, ∀ r, Record.load v = .ok r → P r) → (∀ r ∈ acc, P r) →
    (acc.map Record.name).Nodup → addRecords acc items = .ok rs →
    (∀ r ∈ rs, P r) ∧ (rs.map Record.name).Nodup
  | [], acc, rs, _, hacc, hnodup, h => by
    cases h
    exact ⟨hacc, hnodup⟩
  | item :: items, acc, rs, hitems, hacc, hnodup, h => by
    obtain ⟨hitem, hitems⟩ := List.forall_mem_cons.mp hitems
    obtain ⟨r, hr, h⟩ := of_bind_eq_ok h
    dsimp only at h
    split at h
    · contradiction
    · next hfree =>
      exact forall_of_addRecords _ hitems (forall_mem_append_singleton hacc (hitem r hr))
        (nodup_names_append hnodup hfree) h

theorem exists_of_load {j : Json} (h : load j = .ok v) :
    ∃ list items deadList deadItems, j.memberOr "records" (.arr []) = .ok list ∧
      list.items = .ok items ∧ addRecords [] items = .ok v.records ∧
      j.memberOr "tombstones" (.arr []) = .ok deadList ∧ deadList.items = .ok deadItems ∧
      deadItems.mapM Record.load = .ok v.tombstones ∧ v.revision = 0 := by
  obtain ⟨list, hlist, h⟩ := of_bind_eq_ok h
  obtain ⟨items, hitems, h⟩ := of_bind_eq_ok h
  obtain ⟨deadList, hdeadList, h⟩ := of_bind_eq_ok h
  obtain ⟨deadItems, hdeadItems, h⟩ := of_bind_eq_ok h
  obtain ⟨records, hrecords, h⟩ := of_bind_eq_ok h
  obtain ⟨tombstones, htombstones, h⟩ := of_bind_eq_ok h
  cases h
  exact ⟨list, items, deadList, deadItems, hlist, hitems, hrecords, hdeadList, hdeadItems,
    htombstones, rfl⟩

theorem isSound_of_load {j : Json} (hj : j.Readable) (h : load j = .ok v) : v.IsSound := by
  have hempty : (Json.arr []).Readable := trivial
  obtain ⟨list, items, deadList, deadItems, hlist, hitems, hrecords, hdeadList, hdeadItems,
    htombstones, -⟩ := exists_of_load h
  have hread := (hj.memberOr hempty hlist).items hitems
  obtain ⟨hlive, hnames⟩ := forall_of_addRecords []
    (fun w hw r hload => Record.isSound_of_load (hread w hw) hload) nofun List.nodup_nil hrecords
  refine ⟨hnames, hlive, fun r hr => ?_⟩
  obtain ⟨w, hw, hload⟩ := exists_of_mapM_eq_ok htombstones r hr
  exact Record.isSound_of_load ((hj.memberOr hempty hdeadList).items hdeadItems w hw) hload

variable {now : Timestamp}

theorem isSound_of_loadLegacyRecord (hnow : now.IsValid) {j : Json} {r : Record}
    (h : loadLegacyRecord now j = .ok r) : r.IsSound := by
  obtain ⟨_, -, h⟩ := of_bind_eq_ok h
  obtain ⟨_, -, h⟩ := of_bind_eq_ok h
  obtain ⟨fields, -, h⟩ := of_bind_eq_ok h
  obtain ⟨_, -, h⟩ := of_bind_eq_ok h
  obtain ⟨_, -, h⟩ := of_bind_eq_ok h
  split at h
  · contradiction
  · cases h
    exact ⟨nodup_mergeFields fields, nofun, hnow, hnow⟩

theorem isSound_of_addLegacyRecords : ∀ {items : List Record} (acc : List Record) {rs : List Record},
    (∀ r ∈ items, r.IsSound) → (∀ r ∈ acc, r.IsSound) → (acc.map Record.name).Nodup →
    addLegacyRecords acc items = .ok rs → (∀ r ∈ rs, r.IsSound) ∧ (rs.map Record.name).Nodup
  | [], acc, rs, _, hacc, hnodup, h => by
    cases h
    exact ⟨hacc, hnodup⟩
  | r :: items, acc, rs, hitems, hacc, hnodup, h => by
    obtain ⟨hr, hitems⟩ := List.forall_mem_cons.mp hitems
    rw [addLegacyRecords] at h
    split at h
    · contradiction
    · next hfree =>
      exact isSound_of_addLegacyRecords _ hitems (forall_mem_append_singleton hacc hr)
        (nodup_names_append hnodup hfree) h

/-- What becomes of the list of records of the simpler form. -/
theorem isSound_of_legacyItems (hnow : now.IsValid) {list : Json}
    (h : (do
      let records ← (← list.items).mapM (loadLegacyRecord now)
      return (⟨← addLegacyRecords [] records, [], 0⟩ : Vault)) = .ok v) : v.IsSound := by
  obtain ⟨items, -, h⟩ := of_bind_eq_ok h
  obtain ⟨loaded, hloaded, h⟩ := of_bind_eq_ok h
  obtain ⟨records, hrecords, h⟩ := of_bind_eq_ok h
  cases h
  have hall : ∀ r ∈ loaded, r.IsSound := by
    intro r hr
    obtain ⟨w, -, hload⟩ := exists_of_mapM_eq_ok hloaded r hr
    exact isSound_of_loadLegacyRecord hnow hload
  obtain ⟨hlive, hnames⟩ := isSound_of_addLegacyRecords [] hall nofun List.nodup_nil hrecords
  exact ⟨hnames, hlive, nofun⟩

theorem isSound_of_loadLegacy (hnow : now.IsValid) {j : Json} (h : loadLegacy now j = .ok v) :
    v.IsSound := by
  unfold loadLegacy at h
  split at h
  · obtain ⟨list, -, h⟩ := of_bind_eq_ok h
    exact isSound_of_legacyItems hnow h
  · exact isSound_of_legacyItems hnow h

/-- Vaults from a file are sound. -/
theorem isSound_of_ofPayload {legacy : Bool} {bs : Bytes} (hnow : now.IsValid)
    (h : ofPayload now legacy bs = .ok v) : v.IsSound := by
  unfold ofPayload at h
  split at h
  · cases h
  · split at h
    · cases h
    · exact isSound_of_loadLegacy hnow (eq_ok_of_mapError h)
    · next hread => exact isSound_of_load (Json.readable_of_read hread) (eq_ok_of_mapError h)
    · cases h

/-! ### Calls -/

theorem isSound_storeFields (hnow : now.IsValid) : ∀ (fs : List Field) {r : Record}, r.IsSound →
    (storeFields now r fs).IsSound
  | [], r, h => h
  | f :: fs, r, h => by
    rw [storeFields]
    refine isSound_storeFields hnow fs ?_
    cases r.field? f.key with
    | none => exact { h with keys := nodup_storeField h.keys }
    | some previous =>
      dsimp only
      split
      · exact h
      · refine { h with keys := nodup_storeField h.keys, history := ?_ }
        exact List.forall_mem_append.mpr ⟨h.history,
          List.forall_mem_singleton.mpr ⟨hnow, trivial, trivial, trivial⟩⟩

theorem isSound_dropFields (hnow : now.IsValid) : ∀ (keys : List String) {r : Record}, r.IsSound →
    (dropFields now r keys).IsSound
  | [], r, h => h
  | k :: keys, r, h => by
    rw [dropFields]
    refine isSound_dropFields hnow keys ?_
    cases r.field? k with
    | none => exact h
    | some previous =>
      refine { h with keys := nodup_filter h.keys _, history := ?_ }
      exact List.forall_mem_append.mpr ⟨h.history,
        List.forall_mem_singleton.mpr ⟨hnow, trivial, trivial, trivial⟩⟩

theorem isSound_replace {name : String} {r : Record} (h : v.IsSound) (hr : r.IsSound)
    (hnames : (v.replace name r).names.Nodup) : (v.replace name r).IsSound := by
  refine ⟨hnames, fun q hq => ?_, h.tombstones⟩
  obtain ⟨p, hp, rfl⟩ := List.mem_map.mp hq
  split
  · exact hr
  · exact h.records p hp

theorem isSound_of_find? {name : String} {r : Record} (h : v.IsSound) (hr : v.find? name = some r) :
    r.IsSound :=
  h.records r (List.mem_of_find?_eq_some hr)

theorem Step.isSound {c : Call} {v' : Vault} (hnow : now.IsValid) (hstep : Step now v c v')
    (h : v.IsSound) : v'.IsSound := by
  have hnames := hstep.nodup_names h.names
  cases hstep with
  | @created name fields id _ _ =>
    have hblank : (Record.blank name id now).IsSound := ⟨List.nodup_nil, nofun, hnow, hnow⟩
    exact ⟨hnames, forall_mem_append_singleton h.records (isSound_storeFields hnow fields hblank),
      h.tombstones⟩
  | @stored name fields r _ hr =>
    have hsound := isSound_storeFields hnow fields (isSound_of_find? h hr)
    have hstored : Record.IsSound { storeFields now r fields with updatedAt := now } :=
      ⟨hsound.keys, hsound.history, hsound.createdAt, hnow⟩
    exact ⟨hnames, (isSound_replace h hstored hnames).records, h.tombstones⟩
  | @deleted name r hr =>
    have hsound := isSound_of_find? h hr
    have hburied : (buried now r).IsSound := by
      refine ⟨List.nodup_nil, ?_, hsound.createdAt, hnow⟩
      exact List.forall_mem_append.mpr ⟨hsound.history,
        List.forall_mem_singleton.mpr ⟨hnow, trivial, trivial, trivial⟩⟩
    exact ⟨hnames, fun q hq => h.records q (List.mem_of_mem_filter hq),
      forall_mem_append_singleton h.tombstones hburied⟩
  | @dropped name keys r hr _ =>
    have hsound := isSound_dropFields hnow keys (isSound_of_find? h hr)
    have hdropped : Record.IsSound { dropFields now r keys with updatedAt := now } :=
      ⟨hsound.keys, hsound.history, hsound.createdAt, hnow⟩
    exact ⟨hnames, (isSound_replace h hdropped hnames).records, h.tombstones⟩
  | @renamed old new r _ hr _ =>
    have hsound := isSound_of_find? h hr
    have hrenamed : (Vault.renamed now old new r).IsSound := by
      refine ⟨hsound.keys, ?_, hsound.createdAt, hnow⟩
      exact List.forall_mem_append.mpr ⟨hsound.history,
        List.forall_mem_singleton.mpr ⟨hnow, trivial, trivial, trivial⟩⟩
    exact ⟨hnames, (isSound_replace h hrenamed hnames).records, h.tombstones⟩

theorem Step.revision {c : Call} {v' : Vault} (hstep : Step now v c v') :
    v'.revision = v.revision + 1 := by
  cases hstep <;> rfl

/-- What a vault may have become: the same, or one that counts more changes. -/
def Follows (v v' : Vault) : Prop :=
  v' = v ∨ v.revision < v'.revision

theorem Follows.revision_le {v' : Vault} (h : Follows v v') : v.revision ≤ v'.revision := by
  obtain rfl | h := h
  · exact Nat.le_refl _
  · exact Nat.le_of_lt h

/-- A call at a moment that can be written keeps a vault sound. -/
theorem isSound_perform (hnow : now.IsValid) (st : Vault × IdSource) (h : st.1.IsSound)
    (c : Call) : (perform now st c).1.IsSound :=
  perform_induction (fun _ _ _ h hstep => hstep.isSound hnow h) st c h

/-- A call that changes a vault raises its count of changes. -/
theorem follows_perform (now : Timestamp) (st : Vault × IdSource) (c : Call) :
    Follows st.1 (perform now st c).1 := by
  refine perform_induction (P := Follows st.1) (fun v c v' h hstep => .inr ?_) st c (.inl rfl)
  have hle := h.revision_le
  rw [hstep.revision]
  exact Nat.lt_succ_of_le hle

end Coffer.Vault
