import Coffer.Proofs.Vault.Moves

/-!
What holds of every vault that calls make from an empty one (`run_isWellFormed`). Names, keys and logs
are kept in order by every step (`Vault.IsLawful`, `Step.isLawful`). That ids are distinct depends on
the source they are taken from, so it is proved for a whole run: the ids of all records, live and
deleted, are those that were taken (`Vault.Grows`), one for each record that was created.
-/

namespace Coffer

namespace IdSource

/-- The ids that were taken from a source between two of its states. -/
def taken (s s' : IdSource) : List Uuid :=
  (List.range' s.issued (s'.issued - s.issued)).map s.fresh

theorem taken_self (s : IdSource) : s.taken s = [] := by
  rw [taken, Nat.sub_self]
  rfl

theorem taken_next (s : IdSource) : s.taken s.next.2 = [s.next.1] := by
  rw [taken, next, Nat.add_sub_cancel_left]
  rfl

theorem taken_of_issued {s s' : IdSource} {count : Nat} (h : s'.issued = s.issued + count) :
    s.taken s' = (List.range' s.issued count).map s.fresh := by
  rw [taken, h, Nat.add_sub_cancel_left]

end IdSource

/-! ### The invariant -/

/-- A live record has a name, its fields have keys of their own, and it was never deleted. -/
structure Record.IsLive (r : Record) : Prop where
  name : r.name ≠ ""
  keys : "" ∉ fieldKeys r.fields
  distinct : (fieldKeys r.fields).Nodup
  alive : ∀ e ∈ r.history, e.kind ≠ .recordDeleted

/-- A deleted record has no fields, and its deletion, the only one, is the last thing that happened
to it. -/
structure Record.IsGone (r : Record) : Prop where
  fields : r.fields = []
  history : ∃ before e, r.history = before ++ [e] ∧ e.kind = .recordDeleted ∧
    ∀ e ∈ before, e.kind ≠ .recordDeleted

namespace Vault

/-- All records that a vault keeps, live and deleted. -/
def all (v : Vault) : List Record :=
  v.records ++ v.tombstones

def ids (v : Vault) : List Uuid :=
  v.all.map Record.id

/-- What every step keeps. -/
structure IsLawful (v : Vault) : Prop where
  names : v.names.Nodup
  live : ∀ r ∈ v.records, r.IsLive
  gone : ∀ r ∈ v.tombstones, r.IsGone

/-- What holds of a vault whose ids come from a source that gives none twice. -/
structure IsWellFormed (v : Vault) : Prop extends IsLawful v where
  ids : v.ids.Nodup

end Vault

/-! ### Records -/

namespace Record.IsLive

variable {now : Timestamp} {r : Record}

theorem blank {name : String} (hname : name ≠ "") (id : Uuid) (now : Timestamp) :
    (Record.blank name id now).IsLive where
  name := hname
  keys := List.not_mem_nil
  distinct := List.nodup_nil
  alive := nofun

theorem touch (h : r.IsLive) (now : Timestamp) : IsLive { r with updatedAt := now } :=
  ⟨h.name, h.keys, h.distinct, h.alive⟩

theorem alive_concat (h : r.IsLive) {e : HistoryEntry} (he : e.kind ≠ .recordDeleted) :
    ∀ e' ∈ r.history ++ [e], e'.kind ≠ .recordDeleted :=
  List.forall_mem_append.mpr ⟨h.alive, List.forall_mem_singleton.mpr he⟩

theorem store (h : r.IsLive) {f : Field} (hf : f.key ≠ "") :
    IsLive { r with fields := storeField f r.fields } where
  name := h.name
  keys := by
    rw [fieldKeys_storeField]
    split
    · exact h.keys
    · exact fun hmem => (List.mem_append.mp hmem).elim h.keys
        fun hmem => hf (List.mem_singleton.mp hmem).symm
  distinct := nodup_storeField h.distinct
  alive := h.alive

theorem storeFields (h : r.IsLive) {fs : List Field} (hfs : "" ∉ fieldKeys fs) :
    (Vault.storeFields now r fs).IsLive := by
  refine Vault.storeFields_induction now fs r (fun q f hf hq => hq.store ?_)
    (fun q previous hq => ⟨hq.name, hq.keys, hq.distinct, hq.alive_concat nofun⟩) h
  rintro hempty
  exact hfs (List.mem_map.mpr ⟨f, hf, hempty⟩)

theorem dropFields (h : r.IsLive) (keys : List String) : (Vault.dropFields now r keys).IsLive := by
  refine Vault.dropFields_induction now (fun q key previous hq => ?_) keys r h
  have hsub : (fieldKeys (q.fields.filter (·.key ≠ key))).Sublist (fieldKeys q.fields) :=
    List.filter_sublist.map Field.key
  exact ⟨hq.name, fun hmem => hq.keys (hsub.subset hmem), hsub.nodup hq.distinct,
    hq.alive_concat nofun⟩

theorem renamed (h : r.IsLive) {new : String} (hnew : new ≠ "") (old : String) :
    (Vault.renamed now old new r).IsLive where
  name := hnew
  keys := h.keys
  distinct := h.distinct
  alive := h.alive_concat nofun

theorem buried (h : r.IsLive) : (Vault.buried now r).IsGone where
  fields := rfl
  history := ⟨r.history, _, rfl, rfl, h.alive⟩

theorem field?_key (h : r.IsLive) {f : Field} (hf : f ∈ r.fields) : r.field? f.key = some f :=
  find?_key_of_nodup h.distinct hf

end Record.IsLive

namespace Vault

variable {now : Timestamp} {v v' : Vault}

/-! ### Steps -/

theorem isLawful_empty : empty.IsLawful :=
  ⟨List.nodup_nil, nofun, nofun⟩

theorem forall_replace {P : Record → Prop} {name : String} {r : Record} (hv : ∀ q ∈ v.records, P q)
    (hr : P r) : ∀ q ∈ (v.replace name r).records, P q := by
  intro q hq
  obtain ⟨p, hp, rfl⟩ := List.mem_map.mp hq
  split
  · exact hr
  · exact hv p hp

/-- Every step keeps the vault lawful. -/
theorem Step.isLawful {c : Call} (h : Step now v c v') (hv : v.IsLawful) : v'.IsLawful := by
  have hnames := h.nodup_names hv.names
  have hlive : ∀ {name r}, v.find? name = some r → r.IsLive :=
    fun hr => hv.live _ (List.mem_of_find?_eq_some hr)
  cases h with
  | created id hok hfree =>
    refine ⟨hnames, List.forall_mem_append.mpr ⟨hv.live, List.forall_mem_singleton.mpr ?_⟩, hv.gone⟩
    exact (Record.IsLive.blank hok.1 id now).storeFields hok.2.1
  | stored hok hr =>
    exact ⟨hnames, forall_replace hv.live (((hlive hr).storeFields hok.2.1).touch now), hv.gone⟩
  | deleted hr =>
    refine ⟨hnames, fun q hq => hv.live q (List.mem_filter.mp hq).1, ?_⟩
    exact List.forall_mem_append.mpr ⟨hv.gone, List.forall_mem_singleton.mpr (hlive hr).buried⟩
  | dropped hr hkeys =>
    exact ⟨hnames, forall_replace hv.live (((hlive hr).dropFields _).touch now), hv.gone⟩
  | renamed hnew hr hfree =>
    exact ⟨hnames, forall_replace hv.live ((hlive hr).renamed hnew _), hv.gone⟩

theorem IsLawful.perform (hv : v.IsLawful) (now : Timestamp) (ids : IdSource) (c : Call) :
    (Vault.perform now (v, ids) c).1.IsLawful :=
  perform_induction (P := IsLawful) (fun _ _ _ h hs => hs.isLawful h) (v, ids) c hv

theorem IsLawful.run (hv : v.IsLawful) (ids : IdSource) (calls : List (Timestamp × Call)) :
    (Vault.run (v, ids) calls).1.IsLawful := by
  induction calls generalizing v ids with
  | nil => exact hv
  | cons c calls ih => exact ih (hv.perform c.1 ids c.2) _

/-! ### Single calls -/

/-- The single calls that a call consists of: an import sets the fields of its entries. -/
def Call.parts : Call → List Call
  | .importEntries entries => entries.map fun e => .set e.spec.name e.spec.fields
  | c => [c]

/-- Calls as single ones. -/
def singles (calls : List (Timestamp × Call)) : List (Timestamp × Call) :=
  calls.flatMap fun c => c.2.parts.map (c.1, ·)

theorem isImport_of_mem_parts {c part : Call} (h : part ∈ c.parts) : part.isImport = false := by
  cases c with
  | importEntries entries =>
    obtain ⟨e, -, rfl⟩ := List.mem_map.mp h
    rfl
  | _ =>
    cases List.mem_singleton.mp h
    rfl

theorem isImport_of_mem_singles {calls : List (Timestamp × Call)} {c : Timestamp × Call}
    (h : c ∈ singles calls) : c.2.isImport = false := by
  obtain ⟨d, -, hd⟩ := List.mem_flatMap.mp h
  obtain ⟨part, hpart, rfl⟩ := List.mem_map.mp hd
  exact isImport_of_mem_parts hpart

theorem run_parts (now : Timestamp) (st : Vault × IdSource) (c : Call) :
    run st (c.parts.map (now, ·)) = perform now st c := by
  cases c with
  | importEntries entries =>
    rw [perform, importEntries_eq_foldl, run, Call.parts, List.map_map, List.foldl_map]
    rfl
  | _ => rfl

/-- Calls do what the single calls do that they consist of. -/
theorem run_singles (st : Vault × IdSource) (calls : List (Timestamp × Call)) :
    run st (singles calls) = run st calls := by
  induction calls generalizing st with
  | nil => rfl
  | cons c calls ih =>
    have hstep : run st (singles (c :: calls)) =
        run (run st (c.2.parts.map (c.1, ·))) (singles calls) := by
      rw [singles, List.flatMap_cons, run, List.foldl_append]
      rfl
    rw [hstep, run_parts, ih]
    rfl

/-! ### Creations -/

/-- Whether a single call creates a record: it sets fields, with success, under a name that is not
live. -/
def creates (now : Timestamp) (st : Vault × IdSource) : Call → Bool
  | .set name fields => (st.1.set now st.2 name fields).isOk && !st.1.contains name
  | _ => false

/-- How many of single calls create a record, each where it is made. -/
def creations (st : Vault × IdSource) : List (Timestamp × Call) → Nat
  | [] => 0
  | c :: calls => (creates c.1 st c.2).toNat + creations (perform c.1 st c.2) calls

/-- So many records were created under new ids, and none was lost. -/
structure Grows (st st' : Vault × IdSource) (count : Nat) : Prop where
  fresh : st'.2.fresh = st.2.fresh
  issued : st'.2.issued = st.2.issued + count
  ids : st'.1.ids.Perm (st.1.ids ++ st.2.taken st'.2)

namespace Grows

variable {st st' st'' : Vault × IdSource} {m n : Nat}

theorem kept {ids : IdSource} (h : v'.ids.Perm v.ids) : Grows (v, ids) (v', ids) 0 where
  fresh := rfl
  issued := rfl
  ids := by
    rw [IdSource.taken_self, List.append_nil]
    exact h

theorem trans (h : Grows st st' m) (h' : Grows st' st'' n) : Grows st st'' (m + n) := by
  have hissued : st''.2.issued = st.2.issued + (m + n) := by
    rw [h'.issued, h.issued, Nat.add_assoc]
  -- What is taken in the second part goes on where the first part stopped.
  have htaken : st.2.taken st'.2 ++ st'.2.taken st''.2 = st.2.taken st''.2 := by
    rw [IdSource.taken_of_issued h.issued, IdSource.taken_of_issued h'.issued,
      IdSource.taken_of_issued hissued, h.fresh, h.issued, ← List.map_append, List.range'_append_1]
  refine ⟨h'.fresh.trans h.fresh, hissued, ?_⟩
  rw [← htaken, ← List.append_assoc]
  exact h'.ids.trans (h.ids.append_right _)

end Grows

theorem Changes.ids_perm {name : String} {r r' : Record} (h : Changes v v' name r r') :
    v'.ids.Perm v.ids := by
  obtain ⟨before, after, hbefore, hafter⟩ := h.place
  simp only [ids, all, hbefore, hafter, h.gone, List.map_append, List.map_cons, h.follows.id]
  exact .refl _

/-- A record keeps its id when it is deleted. -/
theorem Buries.ids_perm {name : String} {r r' : Record} (h : Buries v v' name r r') :
    v'.ids.Perm v.ids := by
  obtain ⟨before, after, hbefore, hafter⟩ := h.place
  simp only [ids, all, hbefore, hafter, h.gone, List.map_append, List.map_cons, List.map_nil,
    h.follows.id, List.append_assoc]
  refine .append_left _ ?_
  rw [← List.append_assoc]
  exact List.perm_append_comm

/-- A single call creates a record under the next id, or creates none. -/
theorem grows_perform (hv : v.names.Nodup) (now : Timestamp) (ids : IdSource) {c : Call}
    (hc : c.isImport = false) :
    Grows (v, ids) (perform now (v, ids) c) (creates now (v, ids) c).toNat := by
  cases c with
  | set name fields =>
    by_cases hs : Storable name fields
    · have hset := set_of_storable now v ids hs
      cases hr : v.find? name with
      | some r =>
        rw [hr] at hset
        simp only [perform, creates, hset, contains, hr]
        exact .kept (changes_replace hv hr ((extends_storeFields now r fields).touch _ _ now)).ids_perm
      | none =>
        rw [hr] at hset
        -- The record that is new got its id before its fields, and kept it.
        have hid : (storeFields now (.blank name ids.next.1 now) fields).id = ids.next.1 :=
          (extends_storeFields now _ fields).id
        simp only [perform, creates, hset, contains, hr]
        refine ⟨rfl, rfl, ?_⟩
        rw [IdSource.taken_next]
        simp only [Vault.ids, all, touched, List.map_append, List.map_cons, List.map_nil, hid,
          List.append_assoc]
        exact .append_left _ List.perm_append_comm
    · obtain ⟨e, he⟩ := set_of_not_storable now v ids hs
      simp only [perform, creates, he]
      exact .kept (.refl _)
  | delete name =>
    rw [perform, delete_eq]
    cases hr : v.find? name with
    | some r => exact .kept (buries_filter hv hr).ids_perm
    | none => exact .kept (.refl _)
  | deleteFields name keys =>
    rw [perform, deleteFields_eq]
    cases hr : v.find? name with
    | some r =>
      have hfollows := (extends_dropFields now r keys).touch (dropFields now r keys).name
        (dropFields now r keys).fields now
      by_cases hidle : ∀ k ∈ keys, k ∉ fieldKeys r.fields
      · simp only [if_pos hidle]
        exact .kept (.refl _)
      · simp only [if_neg hidle]
        exact .kept (changes_replace hv hr hfollows).ids_perm
    | none => exact .kept (.refl _)
  | rename old new =>
    rw [perform, rename_eq]
    by_cases hnew : new = ""
    · rw [if_pos hnew]
      exact .kept (.refl _)
    rw [if_neg hnew]
    cases hr : v.find? old with
    | some r =>
      have hchanges := changes_replace hv hr (extends_renamed now old new r)
      cases hfree : v.contains new with
      | true => exact .kept (.refl _)
      | false => exact .kept hchanges.ids_perm
    | none => exact .kept (.refl _)
  | importEntries entries => cases hc

theorem nodup_names_perform (hv : v.names.Nodup) (now : Timestamp) (ids : IdSource) (c : Call) :
    (perform now (v, ids) c).1.names.Nodup :=
  perform_induction (P := fun v => v.names.Nodup) (fun _ _ _ h hs => hs.nodup_names h) (v, ids) c hv

theorem grows_singles (hv : v.names.Nodup) (ids : IdSource) : ∀ (calls : List (Timestamp × Call)),
    (∀ c ∈ calls, c.2.isImport = false) →
    Grows (v, ids) (run (v, ids) calls) (creations (v, ids) calls) := by
  intro calls hcalls
  induction calls generalizing v ids with
  | nil => exact .kept (.refl _)
  | cons c calls ih =>
    obtain ⟨hc, hcalls⟩ := List.forall_mem_cons.mp hcalls
    exact (grows_perform hv c.1 ids hc).trans
      (ih (nodup_names_perform hv c.1 ids c.2) _ hcalls)

/-- Calls create records under the ids they take, and lose none. -/
theorem grows_run (hv : v.names.Nodup) (ids : IdSource) (calls : List (Timestamp × Call)) :
    Grows (v, ids) (run (v, ids) calls) (creations (v, ids) (singles calls)) := by
  have hgrows := grows_singles hv ids (singles calls) fun c hc => isImport_of_mem_singles hc
  rwa [run_singles] at hgrows

/-- A vault that calls make from an empty one, failing ones included, is well formed, as long as the
ids that were taken are distinct: every live record is found under its name, and every field under
its key; and there are as many records, live and deleted, as were ever created. -/
theorem run_isWellFormed {ids : IdSource} {calls : List (Timestamp × Call)}
    (hids : (ids.taken (run (.empty, ids) calls).2).Nodup) :
    let v := (run (.empty, ids) calls).1
    v.IsWellFormed ∧
      (∀ r ∈ v.records, v.find? r.name = some r ∧ ∀ f ∈ r.fields, r.field? f.key = some f) ∧
      creations (.empty, ids) (singles calls) = v.records.length + v.tombstones.length := by
  intro v
  have hlawful : v.IsLawful := isLawful_empty.run ids calls
  have hgrows := grows_run isLawful_empty.names ids calls
  -- At the start there were no records, so the ids that are kept are those that were taken.
  have hperm : v.ids.Perm (ids.taken (run (.empty, ids) calls).2) := hgrows.ids
  refine ⟨⟨hlawful, hperm.nodup_iff.mpr hids⟩, fun r hr => ⟨?_, fun f hf => ?_⟩, ?_⟩
  · exact find?_key_of_nodup hlawful.names hr
  · exact (hlawful.live r hr).field?_key hf
  · have hlength := hperm.length_eq
    rw [IdSource.taken_of_issued hgrows.issued, List.length_map, List.length_range'] at hlength
    rw [← hlength, Vault.ids, List.length_map, all, List.length_append]

/-- Two records are created, one of which is deleted and the other renamed; two calls fail. -/
theorem run_isWellFormed_renamed :
    let ids : IdSource := ⟨fun n => ⟨BitVec.ofNat 128 n⟩, 0⟩
    let calls : List (Timestamp × Call) :=
      [(.utc 0, .set "mail" [⟨"user", "me", false⟩]), (.utc 1, .importEntries [⟨1, ⟨"bank", []⟩⟩]),
        (.utc 2, .delete "bank"), (.utc 3, .delete "bank"), (.utc 4, .rename "mail" "post"),
        (.utc 5, .set "" [])]
    let v := (run (.empty, ids) calls).1
    (ids.taken (run (.empty, ids) calls).2).Nodup ∧ v.names = ["post"] ∧ v.IsWellFormed ∧
      (∀ r ∈ v.records, v.find? r.name = some r ∧ ∀ f ∈ r.fields, r.field? f.key = some f) ∧
      creations (.empty, ids) (singles calls) = v.records.length + v.tombstones.length := by
  intro ids calls v
  have hids : (ids.taken (run (.empty, ids) calls).2).Nodup := by decide
  exact ⟨hids, by decide, run_isWellFormed hids⟩

end Vault

end Coffer
