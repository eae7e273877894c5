import Mathlib.Data.List.Infix
import Coffer.Proofs.Vault.Call

/-!
What becomes of a record. An operation changes the fields of a record, its name or the log, and of
the log only the end: the record before is still recognizable in the record after
(`Record.Extends`). And it changes one record at most: a record is added at the end, or changed where
it is, or moved to the end of the deleted ones, and all others stay what and where they are
(`Vault.Moves`, `Vault.Step.moves`).
-/

namespace Coffer

/-! ### Records -/

/-- A record with what may have become of it: its log has gone on. -/
structure Record.Extends (r r' : Record) : Prop where
  id : r'.id = r.id
  createdAt : r'.createdAt = r.createdAt
  history : r.history <+: r'.history

namespace Record.Extends

variable {r r' r'' : Record}

theorem refl (r : Record) : r.Extends r :=
  ⟨rfl, rfl, List.prefix_refl _⟩

theorem trans (h : r.Extends r') (h' : r'.Extends r'') : r.Extends r'' :=
  ⟨h'.id.trans h.id, h'.createdAt.trans h.createdAt, h.history.trans h'.history⟩

theorem touch (h : r.Extends r') (name : String) (fields : List Field) (now : Timestamp) :
    r.Extends { r' with name, fields, updatedAt := now } :=
  ⟨h.id, h.createdAt, h.history⟩

theorem log (h : r.Extends r') (e : HistoryEntry) :
    r.Extends { r' with history := r'.history ++ [e] } :=
  ⟨h.id, h.createdAt, h.history.trans (List.prefix_append _ _)⟩

end Record.Extends

namespace Vault

variable {now : Timestamp} {r : Record}

theorem storeFields_induction {P : Record → Prop} (now : Timestamp) : ∀ (fs : List Field) (r : Record),
    (∀ r, ∀ f ∈ fs, P r → P { r with fields := storeField f r.fields }) →
    (∀ r, ∀ previous, P r → P { r with history := r.history ++ [setEntry now previous] }) →
    P r → P (storeFields now r fs)
  | [], _, _, _, h => h
  | f :: fs, r, hstore, hlog, h => by
    have hstore' : ∀ r, ∀ f ∈ fs, P r → P { r with fields := storeField f r.fields } :=
      fun r g hg => hstore r g (List.mem_cons_of_mem f hg)
    rw [storeFields]
    refine storeFields_induction now fs _ hstore' hlog ?_
    -- A new field leaves no trace in the log, nor does one that stays the same.
    cases r.field? f.key with
    | none => exact hstore r f List.mem_cons_self h
    | some previous =>
      dsimp only
      split
      · exact h
      · exact hlog _ previous (hstore r f List.mem_cons_self h)

theorem dropFields_induction {P : Record → Prop} (now : Timestamp)
    (drop : ∀ r, ∀ key previous, P r → P { r with
      fields := r.fields.filter (·.key ≠ key)
      history := r.history ++ [deleteEntry now previous] }) : ∀ (keys : List String) (r : Record),
    P r → P (dropFields now r keys)
  | [], _, h => h
  | key :: keys, r, h => by
    rw [dropFields]
    refine dropFields_induction now drop keys _ ?_
    cases r.field? key with
    | none => exact h
    | some previous => exact drop r key previous h

theorem extends_storeFields (now : Timestamp) (r : Record) (fs : List Field) :
    r.Extends (storeFields now r fs) :=
  storeFields_induction now fs r (fun q _ _ h => h.touch q.name _ q.updatedAt)
    (fun _ _ h => h.log _) (.refl r)

theorem extends_dropFields (now : Timestamp) (r : Record) (keys : List String) :
    r.Extends (dropFields now r keys) :=
  dropFields_induction now (fun q _ _ h => (h.log _).touch q.name _ q.updatedAt) keys r (.refl r)

theorem extends_buried (now : Timestamp) (r : Record) : r.Extends (buried now r) :=
  ((Record.Extends.refl r).log _).touch r.name [] now

theorem extends_renamed (now : Timestamp) (old new : String) (r : Record) :
    r.Extends (renamed now old new r) :=
  ((Record.Extends.refl r).log _).touch new r.fields now

/-- Fields that stay the same may as well be stored, so that storing fields comes down to storing one
after the other. -/
theorem fields_storeFields (now : Timestamp) : ∀ (fs : List Field) (r : Record),
    (storeFields now r fs).fields = fs.foldl (fun acc f => storeField f acc) r.fields
  | [], _ => rfl
  | f :: fs, r => by
    rw [storeFields, fields_storeFields now fs, List.foldl_cons]
    congr 1
    rw [Record.field?_eq]
    cases hf : findField f.key r.fields with
    | none => rfl
    | some previous =>
      dsimp only
      split
      · next heq => rw [storeField_of_findField (heq ▸ hf)]
      · rfl

/-- Stored fields keep the order of the keys that were there; new ones follow as they were given. -/
theorem fieldKeys_storeFields (now : Timestamp) (r : Record) {fs : List Field}
    (hfs : (fieldKeys fs).Nodup) : fieldKeys (storeFields now r fs).fields =
      fieldKeys r.fields ++ (fieldKeys fs).filter (· ∉ fieldKeys r.fields) := by
  rw [fields_storeFields]
  generalize r.fields = acc
  induction fs generalizing acc with
  | nil => simp [fieldKeys]
  | cons f fs ih =>
    obtain ⟨hf, hfs⟩ := List.nodup_cons.mp hfs
    have hcons : fieldKeys (f :: fs) = f.key :: fieldKeys fs := rfl
    rw [List.foldl_cons, ih hfs, fieldKeys_storeField, hcons]
    by_cases hmem : f.key ∈ fieldKeys acc
    · rw [if_pos hmem, List.filter_cons_of_neg (by simpa using hmem)]
    · -- The key of `f` is now there as well, but no later field has it.
      have hothers : (fieldKeys fs).filter (· ∉ fieldKeys acc ++ [f.key]) =
          (fieldKeys fs).filter (· ∉ fieldKeys acc) := by
        refine List.filter_congr fun k hk => ?_
        have hkf : k ≠ f.key := fun heq => hf (heq ▸ hk)
        simp [hkf]
      rw [if_neg hmem, hothers, List.filter_cons_of_pos (by simpa using hmem), List.append_assoc,
        List.singleton_append]

/-- Removing fields comes down to leaving out those with one of the keys. -/
theorem fields_dropFields (now : Timestamp) : ∀ (keys : List String) (r : Record),
    (dropFields now r keys).fields = r.fields.filter (·.key ∉ keys)
  | [], r => by simp [dropFields]
  | key :: keys, r => by
    rw [dropFields, fields_dropFields now keys, Record.field?_eq]
    cases hf : findField key r.fields with
    | none =>
      refine List.filter_congr fun g hg => ?_
      have hkey : g.key ≠ key := by
        rintro rfl
        exact findField_eq_none_iff.mp hf (List.mem_map_of_mem hg)
      simp [hkey]
    | some previous =>
      rw [List.filter_filter]
      refine List.filter_congr fun g _ => ?_
      simp [Bool.and_comm]

/-! ### Places -/

/-- A live record that is found stands between others of other names. -/
theorem exists_split {v : Vault} {name : String} (hv : v.names.Nodup) (hr : v.find? name = some r) :
    ∃ before after, v.records = before ++ r :: after ∧ ∀ q ∈ before ++ after, q.name ≠ name := by
  obtain ⟨hname, before, after, hsplit, hbefore⟩ := List.find?_eq_some_iff_append.mp hr
  have hname' : r.name = name := by simpa using hname
  rw [names, hsplit, List.map_append, List.map_cons, hname'] at hv
  refine ⟨before, after, hsplit, fun q hq => ?_⟩
  -- A record before `r` would have been found first; one after it would share its name.
  obtain hq | hq := List.mem_append.mp hq
  · simpa using hbefore q hq
  · rintro rfl
    exact (List.nodup_cons.mp (List.nodup_append.mp hv).2.1).1 (List.mem_map_of_mem hq)

/-- A record that is found is replaced where it stands. -/
theorem replace_of_split {v : Vault} {name : String} {before after : List Record}
    (hsplit : v.records = before ++ r :: after) (hname : r.name = name)
    (hothers : ∀ q ∈ before ++ after, q.name ≠ name) (r' : Record) :
    (v.replace name r').records = before ++ r' :: after := by
  have hkeep : ∀ qs : List Record, (∀ q ∈ qs, q.name ≠ name) →
      qs.map (fun q => if q.name = name then r' else q) = qs := by
    intro qs hqs
    exact (List.map_congr_left fun q hq => if_neg (hqs q hq)).trans (List.map_id' qs)
  obtain ⟨hbefore, hafter⟩ := List.forall_mem_append.mp hothers
  rw [replace, hsplit]
  dsimp only
  rw [List.map_append, List.map_cons, if_pos hname, hkeep before hbefore, hkeep after hafter]

/-- A record that is found goes, and the others close up. -/
theorem filter_of_split {v : Vault} {name : String} {before after : List Record}
    (hsplit : v.records = before ++ r :: after) (hname : r.name = name)
    (hothers : ∀ q ∈ before ++ after, q.name ≠ name) :
    v.records.filter (·.name ≠ name) = before ++ after := by
  have hkeep : (before ++ after).filter (·.name ≠ name) = before ++ after :=
    List.filter_eq_self.mpr fun q hq => decide_eq_true (hothers q hq)
  rw [hsplit, List.filter_append, List.filter_cons_of_neg (by simpa using hname),
    ← List.filter_append, hkeep]

structure Changes (v v' : Vault) (name : String) (r r' : Record) : Prop where
  found : v.find? name = some r
  place : ∃ before after, v.records = before ++ r :: after ∧ v'.records = before ++ r' :: after
  gone : v'.tombstones = v.tombstones
  follows : r.Extends r'

structure Buries (v v' : Vault) (name : String) (r r' : Record) : Prop where
  found : v.find? name = some r
  place : ∃ before after, v.records = before ++ r :: after ∧ v'.records = before ++ after
  gone : v'.tombstones = v.tombstones ++ [r']
  follows : r.Extends r'

/-- What a step does to the records: to all but one nothing. -/
inductive Moves (v v' : Vault) : Prop
  | adds (r : Record) (live : v'.records = v.records ++ [r]) (gone : v'.tombstones = v.tombstones)
  | changes {name : String} {r r' : Record} (h : Changes v v' name r r')
  | buries {name : String} {r r' : Record} (h : Buries v v' name r r')

theorem changes_replace {v : Vault} {name : String} {r' : Record} (hv : v.names.Nodup)
    (hr : v.find? name = some r) (hfollows : r.Extends r') :
    Changes v (v.replace name r').touched name r r' := by
  obtain ⟨before, after, hsplit, hothers⟩ := exists_split hv hr
  exact ⟨hr, ⟨before, after, hsplit,
    replace_of_split hsplit (name_of_find? hr) hothers r'⟩, rfl, hfollows⟩

theorem buries_filter {v : Vault} {name : String} (hv : v.names.Nodup)
    (hr : v.find? name = some r) : Buries v (touched { v with
      records := v.records.filter (·.name ≠ name)
      tombstones := v.tombstones ++ [buried now r] }) name r (buried now r) := by
  obtain ⟨before, after, hsplit, hothers⟩ := exists_split hv hr
  exact ⟨hr, ⟨before, after, hsplit, filter_of_split hsplit (name_of_find? hr) hothers⟩, rfl,
    extends_buried now r⟩

/-- A step leaves all records but one alone. -/
theorem Step.moves {v v' : Vault} {c : Call} (h : Step now v c v') (hv : v.names.Nodup) :
    Moves v v' := by
  cases h with
  | created id hok hfree => exact .adds _ rfl rfl
  | stored hok hr =>
    exact .changes (changes_replace hv hr ((extends_storeFields now _ _).touch _ _ now))
  | deleted hr => exact .buries (buries_filter hv hr)
  | dropped hr hkeys =>
    exact .changes (changes_replace hv hr ((extends_dropFields now _ _).touch _ _ now))
  | renamed hnew hr hfree => exact .changes (changes_replace hv hr (extends_renamed now _ _ _))

end Vault

end Coffer
