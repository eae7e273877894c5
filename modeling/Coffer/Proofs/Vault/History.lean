import Mathlib.Data.List.Nodup
import Coffer.Proofs.Vault.WellFormed

/-!
Operations touch only their target, and logs only grow. An operation that succeeds changes one record
where it stands, or adds or deletes one; all other live records are the same and in the same order,
and deleted records are never touched again (`Vault.Changes`, `Vault.Buries`). So whatever calls are
made, every record there ever was is still there, with its log continued (`Vault.Keeps`), and as long
as ids are distinct it is the only one with its id (`target_only`).

Of the invariant of vaults this needs only that the names of live records are distinct.
-/

namespace Coffer.Vault

variable {now : Timestamp} {v v' v'' : Vault} {ids ids' : IdSource} {r' : Record}

/-! ### Operations -/

/-- Setting fields keeps the keys that were there in order, and adds new ones as they are given. -/
theorem set_target {name : String} {fields : List Field} (hv : v.names.Nodup)
    (h : v.set now ids name fields = .ok (r', v', ids')) :
    r'.name = name ∧ ((∃ r, Changes v v' name r r' ∧ fieldKeys r'.fields =
        fieldKeys r.fields ++ (fieldKeys fields).filter (· ∉ fieldKeys r.fields)) ∨
      v.find? name = none ∧ v'.records = v.records ++ [r'] ∧ v'.tombstones = v.tombstones ∧
        r'.fields = fields) := by
  by_cases hs : Storable name fields
  · have hset := set_of_storable now v ids hs
    cases hr : v.find? name with
    | some r =>
      rw [hr] at hset
      cases hset.symm.trans h
      refine ⟨(storeFields_name now fields r).trans (name_of_find? hr), .inl ⟨r, ?_, ?_⟩⟩
      · exact changes_replace hv hr ((extends_storeFields now r fields).touch _ _ now)
      · exact fieldKeys_storeFields now r hs.2.2
    | none =>
      rw [hr] at hset
      cases hset.symm.trans h
      refine ⟨storeFields_name now fields _, .inr ⟨rfl, rfl, rfl, ?_⟩⟩
      rw [fields_storeFields]
      exact foldl_storeField_of_nodup fields [] hs.2.2
  · obtain ⟨e, he⟩ := set_of_not_storable now v ids hs
    rw [he] at h
    cases h

theorem delete_target {name : String} (hv : v.names.Nodup)
    (h : v.delete now name = .ok (r', v')) : ∃ r, Buries v v' name r r' := by
  rw [delete_eq] at h
  cases hr : v.find? name with
  | some r =>
    rw [hr] at h
    cases h
    exact ⟨r, buries_filter hv hr⟩
  | none =>
    rw [hr] at h
    cases h

theorem deleteFields_target {name : String} {keys : List String} (hv : v.names.Nodup)
    (h : v.deleteFields now name keys = .ok (r', v')) :
    ∃ r, Changes v v' name r r' ∧ r'.name = name ∧ r'.fields = r.fields.filter (·.key ∉ keys) := by
  rw [deleteFields_eq] at h
  cases hr : v.find? name with
  | some r =>
    rw [hr] at h
    dsimp only at h
    split at h
    · next hidle =>
      -- None of the keys is there, and the vault is not even touched.
      cases h
      obtain ⟨before, after, hsplit, -⟩ := exists_split hv hr
      refine ⟨_, ⟨hr, ⟨before, after, hsplit, hsplit⟩, rfl, .refl _⟩, name_of_find? hr, ?_⟩
      refine (List.filter_eq_self.mpr fun f hf => ?_).symm
      have hkey : f.key ∉ keys := fun hkey => hidle f.key hkey (List.mem_map_of_mem hf)
      simpa using hkey
    · cases h
      refine ⟨r, ?_, (dropFields_name now keys r).trans (name_of_find? hr), ?_⟩
      · exact changes_replace hv hr ((extends_dropFields now r keys).touch _ _ now)
      · exact fields_dropFields now keys r
  | none =>
    rw [hr] at h
    cases h

theorem rename_target {old new : String} (hv : v.names.Nodup)
    (h : v.rename now old new = .ok (r', v')) :
    ∃ r, Changes v v' old r r' ∧ r'.name = new ∧ r'.fields = r.fields := by
  rw [rename_eq] at h
  split at h
  · cases h
  cases hr : v.find? old with
  | some r =>
    rw [hr] at h
    dsimp only at h
    split at h
    · cases h
    · cases h
      exact ⟨r, changes_replace hv hr (extends_renamed now old new r), rfl, rfl⟩
  | none =>
    rw [hr] at h
    cases h

/-! ### Runs -/

/-- Deleted records stay as they are, and live ones are still there, live or deleted. -/
structure Keeps (v v' : Vault) : Prop where
  gone : v.tombstones <+: v'.tombstones
  follows : ∀ r ∈ v.all, ∃ r' ∈ v'.all, r.Extends r'

namespace Keeps

theorem refl (v : Vault) : Keeps v v :=
  ⟨List.prefix_refl _, fun r hr => ⟨r, hr, .refl r⟩⟩

theorem trans (h : Keeps v v') (h' : Keeps v' v'') : Keeps v v'' := by
  refine ⟨h.gone.trans h'.gone, fun r hr => ?_⟩
  obtain ⟨r', hr', hfollows⟩ := h.follows r hr
  obtain ⟨r'', hr'', hfollows'⟩ := h'.follows r' hr'
  exact ⟨r'', hr'', hfollows.trans hfollows'⟩

end Keeps

theorem Moves.keeps (h : Moves v v') : Keeps v v' := by
  cases h with
  | adds r live gone =>
    refine ⟨by rw [gone], fun q hq => ⟨q, ?_, .refl q⟩⟩
    rw [all, live, gone]
    simp only [all, List.mem_append] at hq ⊢
    exact hq.imp .inl id
  | @changes name r r' h =>
    obtain ⟨before, after, hbefore, hafter⟩ := h.place
    refine ⟨by rw [h.gone], fun q hq => ?_⟩
    simp only [all, hbefore, hafter, h.gone, List.mem_append, List.mem_cons] at hq ⊢
    obtain (hq | rfl | hq) | hq := hq
    · exact ⟨q, .inl (.inl hq), .refl q⟩
    · exact ⟨r', .inl (.inr (.inl rfl)), h.follows⟩
    · exact ⟨q, .inl (.inr (.inr hq)), .refl q⟩
    · exact ⟨q, .inr hq, .refl q⟩
  | @buries name r r' h =>
    -- The record that is buried goes on among those that were deleted.
    obtain ⟨before, after, hbefore, hafter⟩ := h.place
    refine ⟨by rw [h.gone]; exact List.prefix_append _ _, fun q hq => ?_⟩
    simp only [all, hbefore, hafter, h.gone, List.mem_append, List.mem_cons] at hq ⊢
    obtain (hq | rfl | hq) | hq := hq
    · exact ⟨q, .inl (.inl hq), .refl q⟩
    · exact ⟨r', .inr (.inr (.inl rfl)), h.follows⟩
    · exact ⟨q, .inl (.inr hq), .refl q⟩
    · exact ⟨q, .inr (.inl hq), .refl q⟩

theorem keeps_perform (hv : v.names.Nodup) (now : Timestamp) (ids : IdSource) (c : Call) :
    Keeps v (perform now (v, ids) c).1 := by
  have hkeeps : (perform now (v, ids) c).1.names.Nodup ∧ Keeps v (perform now (v, ids) c).1 := by
    refine perform_induction (P := fun u => u.names.Nodup ∧ Keeps v u) ?_ (v, ids) c ⟨hv, .refl v⟩
    intro u c' u' ⟨hu, hkept⟩ hstep
    exact ⟨hstep.nodup_names hu, hkept.trans (hstep.moves hu).keeps⟩
  exact hkeeps.2

theorem keeps_run (hv : v.names.Nodup) (ids : IdSource) (calls : List (Timestamp × Call)) :
    Keeps v (run (v, ids) calls).1 := by
  induction calls generalizing v ids with
  | nil => exact .refl v
  | cons c calls ih =>
    exact (keeps_perform hv c.1 ids c.2).trans (ih (nodup_names_perform hv c.1 ids c.2) _)

/-- With distinct ids, what a record has become is the record of its id. -/
theorem Keeps.follows_of_id (h : Keeps v v') (hids : v'.ids.Nodup) {r : Record} (hr : r ∈ v.all)
    (hr' : r' ∈ v'.all) (hid : r'.id = r.id) : r.Extends r' := by
  obtain ⟨q, hq, hfollows⟩ := h.follows r hr
  have heq : r' = q := List.inj_on_of_nodup_map hids hr' hq (hid.trans hfollows.id.symm)
  rw [heq]
  exact hfollows

/-- What operations that succeed do to a vault, and what any calls do to it in the end. -/
theorem target_only (hv : v.names.Nodup) (ids : IdSource) :
    (∀ now name fields r' v' ids', v.set now ids name fields = .ok (r', v', ids') →
      r'.name = name ∧ ((∃ r, Changes v v' name r r' ∧ fieldKeys r'.fields =
          fieldKeys r.fields ++ (fieldKeys fields).filter (· ∉ fieldKeys r.fields)) ∨
        v.find? name = none ∧ v'.records = v.records ++ [r'] ∧ v'.tombstones = v.tombstones ∧
          r'.fields = fields)) ∧
    (∀ now name r' v', v.delete now name = .ok (r', v') → ∃ r, Buries v v' name r r') ∧
    (∀ now name keys r' v', v.deleteFields now name keys = .ok (r', v') →
      ∃ r, Changes v v' name r r' ∧ r'.name = name ∧
        r'.fields = r.fields.filter (·.key ∉ keys)) ∧
    (∀ now old new r' v', v.rename now old new = .ok (r', v') →
      ∃ r, Changes v v' old r r' ∧ r'.name = new ∧ r'.fields = r.fields) ∧
    ∀ calls : List (Timestamp × Call),
      let st := run (v, ids) calls
      Keeps v st.1 ∧ ((v.ids ++ ids.taken st.2).Nodup →
        ∀ r ∈ v.all, ∀ r' ∈ st.1.all, r'.id = r.id → r.Extends r') := by
  refine ⟨fun _ _ _ _ _ _ h => set_target hv h, fun _ _ _ _ h => delete_target hv h,
    fun _ _ _ _ _ h => deleteFields_target hv h, fun _ _ _ _ _ h => rename_target hv h,
    fun calls => ?_⟩
  have hkeeps := keeps_run hv ids calls
  refine ⟨hkeeps, fun hids r hr r' hr' hid => ?_⟩
  have hnodup : (run (v, ids) calls).1.ids.Nodup :=
    (grows_run hv ids calls).ids.nodup_iff.mpr hids
  exact hkeeps.follows_of_id hnodup hr hr' hid

/-- Of two records the first is renamed; then the second is deleted. -/
theorem target_only_rename :
    let ids : IdSource := ⟨fun n => ⟨BitVec.ofNat 128 n⟩, 2⟩
    let mail : Record := ⟨"mail", ⟨0⟩, [⟨"user", "me", false⟩], [], .utc 0, .utc 0⟩
    let bank : Record := ⟨"bank", ⟨1⟩, [], [], .utc 1, .utc 1⟩
    let v : Vault := ⟨[mail, bank], [], 2⟩
    let st := run (v, ids) [(.utc 2, .rename "mail" "post"), (.utc 3, .delete "bank")]
    v.names.Nodup ∧
      (∃ r' v', v.rename (.utc 2) "mail" "post" = .ok (r', v') ∧
        ∃ r, Changes v v' "mail" r r' ∧ r'.name = "post" ∧ r'.fields = r.fields) ∧
      Keeps v st.1 ∧ (v.ids ++ ids.taken st.2).Nodup ∧
      ∀ r ∈ v.all, ∀ r' ∈ st.1.all, r'.id = r.id → r.Extends r' := by
  intro ids mail bank v st
  have hv : v.names.Nodup := by decide
  have hids : (v.ids ++ ids.taken st.2).Nodup := by decide
  obtain ⟨-, -, -, hrename, hrun⟩ := target_only hv ids
  obtain ⟨hkeeps, hfollows⟩ := hrun [(.utc 2, .rename "mail" "post"), (.utc 3, .delete "bank")]
  exact ⟨hv, ⟨_, _, rfl, hrename _ _ _ _ _ rfl⟩, hkeeps, hids, hfollows hids⟩

end Coffer.Vault
