import Coffer.Proofs.Vault.Course
import Coffer.Proofs.Vault.Import

/-!
Importing lines once more changes nothing.

Storing a record spec makes the vault hold what it says (`Holds`), and storing another spec that does
not contradict it (`Agrees`) leaves it so. After lines that nowhere contradict each other the vault
therefore holds all that they say, whatever it held before (`holds_foldl`). A spec that is held
already finds all its fields as they are; storing it puts a new time on the record and does nothing
else (`storeSpec_of_holds`).

Main statement: `importLines_again`.
-/

namespace Coffer

/-! ### Fields -/

/-- A field is found after many have been stored, if it was one of them or was there before, and
those of its key are all the same. -/
theorem findField_foldl_storeField {f : Field} : ∀ {fs acc : List Field},
    (∀ g ∈ fs, g.key = f.key → g = f) → f ∈ fs ∨ findField f.key acc = some f →
    findField f.key (fs.foldl (fun acc g => storeField g acc) acc) = some f
  | [], acc, _, h => h.resolve_left List.not_mem_nil
  | g :: fs, acc, hsame, h => by
    obtain ⟨hg, hsame⟩ := List.forall_mem_cons.mp hsame
    rw [List.foldl_cons]
    refine findField_foldl_storeField hsame ?_
    rw [findField_storeField]
    by_cases hkey : g.key = f.key
    · rw [if_pos hkey, hg hkey]
      exact .inr rfl
    · rw [if_neg hkey]
      refine h.imp_left fun hmem => (List.mem_cons.mp hmem).resolve_left ?_
      rintro rfl
      exact hkey rfl

def Record.Has (r : Record) (fs : List Field) : Prop :=
  ∀ f ∈ fs, r.field? f.key = some f

theorem Vault.storeFields_of_has (now : Timestamp) {r : Record} : ∀ {fs : List Field}, r.Has fs →
    storeFields now r fs = r
  | [], _ => rfl
  | f :: fs, h => by
    obtain ⟨hf, hfs⟩ := List.forall_mem_cons.mp h
    rw [storeFields, hf]
    dsimp only
    rw [if_pos rfl]
    exact storeFields_of_has now hfs

/-! ### Record specs -/

/-- Two record specs do not contradict each other: fields of one key that they have for one record
are the same, in value and sensitivity. -/
def RecordSpec.Agrees (s s' : RecordSpec) : Prop :=
  s.name = s'.name → ∀ f ∈ s.fields, ∀ f' ∈ s'.fields, f.key = f'.key → f = f'

instance (s s' : RecordSpec) : Decidable (s.Agrees s') :=
  inferInstanceAs (Decidable (_ → _))

namespace Vault

variable {now : Timestamp} {v v' v'' : Vault} {s s' : RecordSpec} {st : Nat × Vault × IdSource}
  {lines : List String}

/-- No two of the record specs contradict each other. -/
def Consistent (specs : List RecordSpec) : Prop :=
  ∀ s ∈ specs, ∀ s' ∈ specs, s.Agrees s'

instance (specs : List RecordSpec) : Decidable (Consistent specs) :=
  inferInstanceAs (Decidable (∀ s ∈ specs, ∀ s' ∈ specs, s.Agrees s'))

/-- What a record spec says is so: the record of its name, of which there is only one, has its
fields. -/
def Holds (v : Vault) (s : RecordSpec) : Prop :=
  ∃ r ∈ v.records, r.name = s.name ∧ r.Has s.fields ∧ ∀ q ∈ v.records, q.name = s.name → q = r

theorem Holds.find? (h : Holds v s) : ∃ r, v.find? s.name = some r ∧ r.Has s.fields ∧
    ∀ q ∈ v.records, q.name = s.name → q = r := by
  obtain ⟨r, hr, hname, hfields, honly⟩ := h
  cases hq : v.find? s.name with
  | none => exact absurd (hname ▸ List.mem_map_of_mem hr) (find?_eq_none_iff.mp hq)
  | some q =>
    rw [honly q (List.mem_of_find?_eq_some hq) (name_of_find? hq)]
    exact ⟨r, rfl, hfields, honly⟩

/-! ### Storing a record spec -/

/-- Storing a record spec leaves one record of its name, which has what was there and what is new,
and all records of other names. -/
theorem storeSpec_spec (now : Timestamp) (st : Nat × Vault × IdSource)
    (hs : Storable s.name s.fields) : ∃ r : Record, r.name = s.name ∧
      r.fields = s.fields.foldl (fun acc f => storeField f acc)
        ((st.2.1.find? s.name).elim [] Record.fields) ∧
      ∀ q, q ∈ (storeSpec now st s).2.1.records ↔
        q = r ∨ q ∈ st.2.1.records ∧ q.name ≠ s.name := by
  obtain ⟨n, v, ids⟩ := st
  have hset := set_of_storable now v ids hs
  cases hr : v.find? s.name with
  | some r =>
    rw [hr] at hset
    have hname := name_of_find? hr
    simp only [storeSpec, hset]
    refine ⟨(storeFields now r s.fields).touchedAt now, (storeFields_name now s.fields r).trans hname,
      fields_storeFields now s.fields r, fun q => ⟨fun hq => ?_, ?_⟩⟩
    · -- A record takes the place of the one of its name, and of no other.
      obtain ⟨p, hp, rfl⟩ := List.mem_map.mp hq
      split
      · exact .inl rfl
      · next hpname => exact .inr ⟨hp, hpname⟩
    · rintro (rfl | ⟨hq, hqname⟩)
      · exact List.mem_map.mpr ⟨r, List.mem_of_find?_eq_some hr, if_pos hname⟩
      · exact List.mem_map.mpr ⟨q, hq, if_neg hqname⟩
  | none =>
    rw [hr] at hset
    have hothers : ∀ q ∈ v.records, q.name ≠ s.name := fun q hq hname =>
      find?_eq_none_iff.mp hr (hname ▸ List.mem_map_of_mem hq)
    simp only [storeSpec, hset]
    refine ⟨storeFields now (.blank s.name ids.next.1 now) s.fields,
      storeFields_name now s.fields _, fields_storeFields now s.fields _, fun q => ?_⟩
    simp only [touched, List.mem_append, List.mem_singleton]
    exact ⟨fun hq => hq.symm.imp_right fun hold => ⟨hold, hothers q hold⟩,
      fun hq => hq.symm.imp_left And.left⟩

theorem holds_storeSpec (now : Timestamp) (hs' : Storable s'.name s'.fields) (hagree : s'.Agrees s)
    (h : s = s' ∨ Holds st.2.1 s) : Holds (storeSpec now st s').2.1 s := by
  obtain ⟨r', hname', hfields', hiff⟩ := storeSpec_spec now st hs'
  by_cases hname : s'.name = s.name
  · refine ⟨r', (hiff r').mpr (.inl rfl), hname'.trans hname, fun f hf => ?_, fun q hq hqname => ?_⟩
    · rw [Record.field?_eq, hfields']
      refine findField_foldl_storeField (fun g hg => hagree hname g hg f hf) ?_
      obtain rfl | hholds := h
      · exact .inl hf
      · obtain ⟨r, hr, hfields, -⟩ := hholds.find?
        rw [hname, hr]
        exact .inr (hfields f hf)
    · exact ((hiff q).mp hq).resolve_right fun hold => hold.2 (hqname.trans hname.symm)
  · have hother : ∀ {q : Record}, q.name = s.name → q.name ≠ s'.name :=
      fun hq hq' => hname (hq'.symm.trans hq)
    obtain rfl | ⟨r, hr, hrname, hfields, honly⟩ := h
    · exact absurd rfl hname
    · refine ⟨r, (hiff r).mpr (.inr ⟨hr, hother hrname⟩), hrname, hfields, fun q hq hqname => ?_⟩
      obtain rfl | hold := (hiff q).mp hq
      · exact absurd hname' (hother hqname)
      · exact honly q hold.1 hqname

/-- After specs that agree with one of them, or with one that was held, that one is held. -/
theorem holds_foldl (now : Timestamp) : ∀ {specs : List RecordSpec} {st : Nat × Vault × IdSource},
    (∀ s' ∈ specs, Storable s'.name s'.fields) → (∀ s' ∈ specs, s'.Agrees s) →
    s ∈ specs ∨ Holds st.2.1 s → Holds (specs.foldl (storeSpec now) st).2.1 s
  | [], _, _, _, h => h.resolve_left List.not_mem_nil
  | s' :: specs, st, hstorable, hagree, h => by
    obtain ⟨hs', hstorable⟩ := List.forall_mem_cons.mp hstorable
    obtain ⟨hagree', hagree⟩ := List.forall_mem_cons.mp hagree
    rw [List.foldl_cons]
    refine holds_foldl now hstorable hagree ?_
    obtain hmem | hholds := h
    · obtain rfl | hmem := List.mem_cons.mp hmem
      · exact .inr (holds_storeSpec now hs' hagree' (.inl rfl))
      · exact .inl hmem
    · exact .inr (holds_storeSpec now hs' hagree' (.inr hholds))

/-! ### Storing what is held -/

/-- The vaults have the same records, but for the times when the live ones were last changed. -/
structure Redates (v v' : Vault) : Prop where
  live : ∀ t, v'.records.map (·.touchedAt t) = v.records.map (·.touchedAt t)
  gone : v'.tombstones = v.tombstones

namespace Redates

theorem refl (v : Vault) : Redates v v :=
  ⟨fun _ => rfl, rfl⟩

theorem trans (h : Redates v v') (h' : Redates v' v'') : Redates v v'' :=
  ⟨fun t => (h'.live t).trans (h.live t), h'.gone.trans h.gone⟩

end Redates

/-- Storing a spec that is held puts a new time on its record. -/
theorem storeSpec_of_holds (now : Timestamp) (hs : Storable s.name s.fields)
    (h : Holds st.2.1 s) :
    Redates st.2.1 (storeSpec now st s).2.1 ∧ (storeSpec now st s).2.2 = st.2.2 := by
  obtain ⟨n, v, ids⟩ := st
  obtain ⟨r, hr, hfields, honly⟩ := h.find?
  have hset := set_of_storable now v ids hs
  rw [hr] at hset
  dsimp only at hset
  rw [storeFields_of_has now hfields] at hset
  have hstore : storeSpec now (n, v, ids) s =
      (n + 1, (v.replace s.name (r.touchedAt now)).touched, ids) := by
    rw [storeSpec, hset]
    rfl
  rw [hstore]
  refine ⟨⟨fun t => ?_, rfl⟩, rfl⟩
  simp only [touched, replace, List.map_map]
  refine List.map_congr_left fun q hq => ?_
  dsimp only [Function.comp]
  split
  · next hname =>
    rw [honly q hq hname]
    rfl
  · rfl

/-- Specs that are held stay so while they are stored, as long as they do not contradict each other, so
that there is nothing to do for any of them. -/
theorem redates_foldl (now : Timestamp) : ∀ (specs : List RecordSpec)
    (st : Nat × Vault × IdSource), (∀ s ∈ specs, Storable s.name s.fields) → Consistent specs →
    (∀ s ∈ specs, Holds st.2.1 s) →
    Redates st.2.1 (specs.foldl (storeSpec now) st).2.1 ∧
      (specs.foldl (storeSpec now) st).2.2 = st.2.2
  | [], st, _, _, _ => ⟨.refl _, rfl⟩
  | s :: specs, st, hstorable, hagree, hholds => by
    obtain ⟨hs, hstorable⟩ := List.forall_mem_cons.mp hstorable
    obtain ⟨hheld, hrest⟩ := List.forall_mem_cons.mp hholds
    obtain ⟨hredates, hids⟩ := storeSpec_of_holds now hs hheld
    have hrest' : ∀ s' ∈ specs, Holds (storeSpec now st s).2.1 s' := fun s' hs' =>
      holds_storeSpec now hs (hagree s List.mem_cons_self s' (List.mem_cons_of_mem s hs'))
        (.inr (hrest s' hs'))
    have hagree' : Consistent specs := fun s hs s' hs' =>
      hagree s (List.mem_cons_of_mem _ hs) s' (List.mem_cons_of_mem _ hs')
    obtain ⟨hredates', hids'⟩ := redates_foldl now specs _ hstorable hagree' hrest'
    exact ⟨hredates.trans hredates', hids'.trans hids⟩

/-! ### Lines -/

/-- The record specs that lines spell, as far as they do. -/
def accepted (lines : List String) : List RecordSpec :=
  (lines.filter (!isBlankLine ·)).filterMap fun line => (RecordSpec.parse line).toOption

/-- The entries that are read are those of the accepted lines. -/
theorem Sorts.specs {n : Nat} {entries : List ImportEntry} {failures : List ImportFailure}
    (h : Sorts n lines entries failures) : entries.map (·.spec) = accepted lines := by
  rw [accepted]
  induction h with
  | nil => rfl
  | blank hblank _ ih => rw [ih, List.filter_cons_of_neg (by simp [hblank])]
  | entry hblank hparse _ ih =>
    rw [List.filter_cons_of_pos (by simp [hblank]), List.map_cons, ih]
    rw [List.filterMap_cons_some (by rw [hparse]; rfl)]
  | failure hblank hparse _ ih =>
    rw [List.filter_cons_of_pos (by simp [hblank]), ih]
    rw [List.filterMap_cons_none (by rw [hparse]; rfl)]

theorem sorts_importLines (lines : List String) :
    Sorts 1 lines (readImportLines 1 lines).1 (readImportLines 1 lines).2 :=
  sorts_readImportLines lines 1

theorem storable_of_accepted : ∀ s ∈ accepted lines, Storable s.name s.fields := by
  rw [← (sorts_importLines lines).specs]
  intro s hs
  obtain ⟨e, he, rfl⟩ := List.mem_map.mp hs
  exact (sorts_importLines lines).storable e he

theorem importLines_eq_foldl (lines : List String) : ∃ report, ∀ now v ids,
    v.importLines now ids lines =
      (report, ((accepted lines).foldl (storeSpec now) (0, v, ids)).2) := by
  have hsorts := sorts_importLines lines
  refine ⟨⟨(readImportLines 1 lines).1.length,
    ((readImportLines 1 lines).2 ++ []).mergeSort fun a b => a.line ≤ b.line⟩, fun now v ids => ?_⟩
  obtain ⟨v', ids', himport, hfold⟩ :=
    importEntries_of_storable now _ 0 v ids hsorts.storable
  rw [← hsorts.specs, List.foldl_map, hfold]
  simp only [importLines, himport]

/-- **Importing lines once more changes nothing**, in any vault and whatever else it holds, if no two
of the lines that are accepted contradict each other: the report is the same, and so are all records,
their order, their fields and their logs. Only the times of the last changes are new. -/
theorem importLines_again {lines : List String} (hlines : Consistent (accepted lines))
    (now now' : Timestamp) (v : Vault) (ids : IdSource) :
    let first := v.importLines now ids lines
    let second := first.2.1.importLines now' first.2.2 lines
    second.1 = first.1 ∧ Redates first.2.1 second.2.1 ∧ second.2.2 = first.2.2 := by
  obtain ⟨report, himport⟩ := importLines_eq_foldl lines
  intro first second
  have hfirst : first = (report, ((accepted lines).foldl (storeSpec now) (0, v, ids)).2) :=
    himport now v ids
  have hsecond : second = (report,
      ((accepted lines).foldl (storeSpec now') (0, first.2.1, first.2.2)).2) :=
    himport now' first.2.1 first.2.2
  have hholds : ∀ s ∈ accepted lines, Holds first.2.1 s := by
    intro s hs
    rw [hfirst]
    exact holds_foldl now storable_of_accepted (fun s' hs' => hlines s' hs' s hs) (.inl hs)
  obtain ⟨hredates, hids⟩ :=
    redates_foldl now' (accepted lines) (0, first.2.1, first.2.2) storable_of_accepted hlines hholds
  rw [hsecond]
  exact ⟨by rw [hfirst], hredates, hids⟩

/-- A record that was there gets a new value, one line is refused, and one says again what another
has said. -/
theorem importLines_again_repeated :
    let lines := ["mail user = you pin secret = 17", "mail user = ", "", "bank",
      "mail pin secret = 17"]
    let mail : Record := ⟨"mail", ⟨0⟩, [⟨"user", "me", false⟩], [], .utc 0, .utc 0⟩
    let first := importLines (.utc 1) ⟨[mail], [], 1⟩ ⟨fun n => ⟨BitVec.ofNat 128 n⟩, 1⟩ lines
    let second := first.2.1.importLines (.utc 2) first.2.2 lines
    Consistent (accepted lines) ∧ (accepted lines).length = 3 ∧
      first.2.1.records.map (·.history.length) = [1, 0] ∧
      second.1 = first.1 ∧ Redates first.2.1 second.2.1 ∧ second.2.2 = first.2.2 := by
  intro lines mail first second
  have hlines : Consistent (accepted lines) := by decide +kernel
  exact ⟨hlines, by decide +kernel, by decide +kernel,
    importLines_again hlines (.utc 1) (.utc 2) _ _⟩

end Vault

end Coffer
