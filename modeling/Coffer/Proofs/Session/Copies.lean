import Coffer.Proofs.Session.Authenticity
import Coffer.Proofs.Shell.Secrecy
import Coffer.Proofs.Vault.Moves

/-!
The copies of records that calls and commands hand out. A copy has its sensitive values hidden, but
its log is the record's own, with the values that it kept. So copies of records that are alike are the
same exactly if their logs are (`Record.Alike.masked_eq_iff`).

Calls take records that are alike to records that are alike, and with the logs hidden the way they
are when they are asked for (`Record.veiled`) nothing is left to tell them apart. There is one
exception: a field that is set to the value it has leaves no entry in the log, so that the length of
the log tells a sensitive value that was guessed; even then nothing else differs
(`unlogged_storeFields`). A filter that looks at a sensitive field tells by what it selects. Whether a
command is followed by a save that succeeds depends on no value at all (`Session.save_result`).

Main statement: for vaults that are alike, the copies of `show`, of `get` and of the results of
commands differ in nothing but their logs, and are the same exactly if these are
(`Session.copies_alike`). The logs may well differ (`Session.copies_differ_mailAndBank`).
-/

namespace Coffer

/-! ### Records -/

/-- A record whose log hides what a log hides when it is asked for. -/
def Record.veiled (r : Record) : Record :=
  { r with history := r.history.map HistoryEntry.masked }

def Record.unlogged (r : Record) : Record :=
  { r with history := [] }

namespace Record.Alike

variable {r q : Record}

/-- Copies of records that are alike are the same with their logs hidden. -/
theorem veiled (h : r.Alike q) : r.masked.veiled = q.masked.veiled := by
  obtain ⟨name, id, fields, history, createdAt, updatedAt⟩ := r
  obtain ⟨name', id', fields', history', createdAt', updatedAt'⟩ := q
  obtain ⟨hname, hid, hfields, hhistory, hcreated, hupdated⟩ := h
  dsimp only at hname hid hfields hhistory hcreated hupdated
  subst hname hid hcreated hupdated
  have hmasked := map_eq_of_forall₂ hfields fun f g hfg => hfg.masked
  have hlog := map_eq_of_forall₂ hhistory fun d e hde => hde.masked
  simp only [Record.masked, Record.veiled, hmasked, hlog]

/-- Copies of records that are alike are the same exactly if their logs are. -/
theorem masked_eq_iff (h : r.Alike q) : r.masked = q.masked ↔ r.history = q.history := by
  constructor
  · exact congrArg Record.history
  · intro hhistory
    have hfields : r.fields.map Field.masked = q.fields.map Field.masked :=
      map_eq_of_forall₂ h.fields fun f g hfg => hfg.masked
    rw [Record.masked, Record.masked, hfields, hhistory, h.name, h.id, h.createdAt, h.updatedAt]

theorem copies_unlogged (h : r.unlogged.Alike q.unlogged) :
    r.masked.unlogged = q.masked.unlogged := by
  have hveiled := congrArg Record.unlogged h.veiled
  exact hveiled

theorem touch (h : r.Alike q) (now : Timestamp) :
    Record.Alike { r with updatedAt := now } { q with updatedAt := now } :=
  ⟨h.name, h.id, h.fields, h.history, h.createdAt, rfl⟩

theorem field? (h : r.Alike q) (key : String) :
    Option.Rel Field.Alike (r.field? key) (q.field? key) :=
  find?_of_forall₂ h.fields fun f g hfg => by rw [hfg.key]

end Record.Alike

theorem Field.Alike.refl (f : Field) : f.Alike f :=
  ⟨rfl, rfl, fun _ => rfl⟩

theorem forall₂_storeField (f : Field) {fs gs : List Field} (h : List.Forall₂ Field.Alike fs gs) :
    List.Forall₂ Field.Alike (storeField f fs) (storeField f gs) := by
  induction h with
  | nil => exact .cons (.refl f) .nil
  | @cons g g' fs gs hg h ih =>
    rw [storeField, storeField, ← hg.key]
    split
    · exact .cons (.refl f) h
    · exact .cons hg ih

theorem forall₂_foldl_storeField (fs : List Field) {gs gs' : List Field}
    (h : List.Forall₂ Field.Alike gs gs') :
    List.Forall₂ Field.Alike (fs.foldl (fun acc f => storeField f acc) gs)
      (fs.foldl (fun acc f => storeField f acc) gs') := by
  induction fs generalizing gs gs' with
  | nil => exact h
  | cons f fs ih => exact ih (forall₂_storeField f h)

namespace Vault

variable {now : Timestamp} {r q : Record}

theorem entry_alike {f g : Field} (h : f.Alike g) (kind : HistoryEntry.Kind) :
    HistoryEntry.Alike
      { time := now, kind, fieldKey := .str f.key, priorValue := .str f.value,
        priorSensitive := .bool f.sensitive }
      { time := now, kind, fieldKey := .str g.key, priorValue := .str g.value,
        priorSensitive := .bool g.sensitive } where
  time := rfl
  kind := rfl
  fieldKey := congrArg Json.str h.key
  priorSensitive := congrArg Json.bool h.sensitive
  priorPresent := rfl
  priorValue := fun hopen => congrArg Json.str (h.value hopen)
  snapshot := .nil

/-! ### Storing fields -/

theorem storeFields_cons (r : Record) (f : Field) (fs : List Field) :
    storeFields now r (f :: fs) = storeFields now (storeFields now r [f]) fs := rfl

/-- A field keeps records alike, if it repeats what both hold or what neither does. -/
theorem storeFields_single (h : r.Alike q) {f : Field}
    (hboth : r.field? f.key = some f ↔ q.field? f.key = some f) :
    (storeFields now r [f]).Alike (storeFields now q [f]) := by
  have hfields := forall₂_storeField f h.fields
  have hfound := h.field? f.key
  simp only [storeFields]
  generalize r.field? f.key = found at hfound hboth
  generalize q.field? f.key = found' at hfound hboth
  cases hfound with
  | none => exact ⟨h.name, h.id, hfields, h.history, h.createdAt, h.updatedAt⟩
  | @some g g' hg =>
    have hsame : g = f ↔ g' = f := by simpa using hboth
    by_cases heq : g = f
    · simpa only [if_pos heq, if_pos (hsame.mp heq)] using h
    · simp only [if_neg heq, if_neg (mt hsame.mpr heq)]
      exact ⟨h.name, h.id, hfields, List.rel_append h.history (.cons (entry_alike hg _) .nil),
        h.createdAt, h.updatedAt⟩

theorem field?_storeFields_single {f : Field} {key : String} (hkey : f.key ≠ key) :
    (storeFields now r [f]).field? key = r.field? key := by
  rw [Record.field?_eq, fields_storeFields, List.foldl_cons, List.foldl_nil,
    findField_storeField, if_neg hkey, Record.field?_eq]

theorem storeFields_alike {fs : List Field} (hnodup : (fieldKeys fs).Nodup) (h : r.Alike q)
    (hboth : ∀ f ∈ fs, r.field? f.key = some f ↔ q.field? f.key = some f) :
    (storeFields now r fs).Alike (storeFields now q fs) := by
  induction fs generalizing r q with
  | nil => exact h
  | cons f fs ih =>
    obtain ⟨hf, hnodup⟩ := List.nodup_cons.mp hnodup
    rw [List.forall_mem_cons] at hboth
    rw [storeFields_cons, storeFields_cons q]
    refine ih hnodup (storeFields_single h hboth.1) ?_
    intro g hg
    -- no field is given twice, so the first one changes nothing for the others
    have hkey : f.key ≠ g.key := fun heq => hf (heq ▸ List.mem_map_of_mem hg)
    rw [field?_storeFields_single hkey, field?_storeFields_single hkey]
    exact hboth.2 g hg

/-- Whatever is stored, records that are alike stay so but for their logs. -/
theorem unlogged_storeFields (h : r.Alike q) (fs : List Field) :
    (storeFields now r fs).unlogged.Alike (storeFields now q fs).unlogged := by
  have hkept (r : Record) := extends_storeFields now r fs
  have hupdated (r : Record) : (storeFields now r fs).updatedAt = r.updatedAt :=
    storeFields_induction (P := fun s => s.updatedAt = r.updatedAt) now fs r
      (fun _ _ _ hs => hs) (fun _ _ hs => hs) rfl
  refine ⟨?_, ?_, ?_, .nil, ?_, ?_⟩
  · simp only [Record.unlogged, storeFields_name, h.name]
  · exact (hkept r).id.trans (h.id.trans (hkept q).id.symm)
  · simp only [Record.unlogged, fields_storeFields]
    exact forall₂_foldl_storeField fs h.fields
  · exact (hkept r).createdAt.trans (h.createdAt.trans (hkept q).createdAt.symm)
  · exact (hupdated r).trans (h.updatedAt.trans (hupdated q).symm)

theorem dropFields_alike (h : r.Alike q) (keys : List String) :
    (dropFields now r keys).Alike (dropFields now q keys) := by
  induction keys generalizing r q with
  | nil => exact h
  | cons key keys ih =>
    rw [dropFields, dropFields]
    apply ih
    have hfound := h.field? key
    generalize r.field? key = found at hfound
    generalize q.field? key = found' at hfound
    cases hfound with
    | none => exact h
    | @some f g hfg =>
      have hkeys : ∀ f g : Field, f.Alike g →
          (decide (f.key ≠ key) = true ↔ decide (g.key ≠ key) = true) := by
        intro f g hfg
        rw [hfg.key]
      exact ⟨h.name, h.id, List.rel_filter hkeys h.fields,
        List.rel_append h.history (.cons (entry_alike hfg _) .nil), h.createdAt, h.updatedAt⟩

theorem renamed_alike (h : r.Alike q) (old new : String) :
    (renamed now old new r).Alike (renamed now old new q) := by
  have hentry : HistoryEntry.Alike
      { time := now, kind := .recordRenamed, priorValue := .str old, priorSensitive := .bool false }
      { time := now, kind := .recordRenamed, priorValue := .str old,
        priorSensitive := .bool false } :=
    ⟨rfl, rfl, rfl, rfl, rfl, fun _ => rfl, .nil⟩
  exact ⟨rfl, h.id, h.fields, List.rel_append h.history (.cons hentry .nil), h.createdAt, rfl⟩

/-! ### Calls -/

section Calls

variable {v w : Vault} (now)

theorem Alike.find? (h : v.Alike w) (name : String) :
    Option.Rel Record.Alike (v.find? name) (w.find? name) :=
  find?_of_forall₂ h.records fun r q hrq => by rw [hrq.name]

theorem Alike.contains (h : v.Alike w) (name : String) : v.contains name = w.contains name := by
  have hfound := h.find? name
  rw [Vault.contains, Vault.contains]
  generalize v.find? name = found at hfound
  generalize w.find? name = found' at hfound
  cases hfound <;> rfl

theorem Alike.get_eq_iff (h : v.Alike w) (name : String) :
    v.get name false = w.get name false ↔
      (v.find? name).map Record.history = (w.find? name).map Record.history := by
  have hfound := h.find? name
  rw [Vault.get, Vault.get, live_eq, live_eq]
  generalize v.find? name = found at hfound
  generalize w.find? name = found' at hfound
  cases hfound with
  | none => exact ⟨fun _ => rfl, fun _ => rfl⟩
  | some hrq =>
    simpa [Except.map] using hrq.masked_eq_iff

theorem Alike.show_eq_iff (h : v.Alike w) :
    v.show none = w.show none ↔ v.records.map Record.history = w.records.map Record.history := by
  show v.records.map Record.masked = w.records.map Record.masked ↔ _
  have hrecords := h.records
  generalize v.records = rs at hrecords
  generalize w.records = qs at hrecords
  induction hrecords with
  | nil => exact ⟨fun _ => rfl, fun _ => rfl⟩
  | cons hrq _ ih =>
    simp only [List.map_cons, List.cons_eq_cons]
    exact and_congr hrq.masked_eq_iff ih

/-- The copy that `get` hands out. -/
theorem Alike.get (h : v.Alike w) (name : String) :
    (v.get name false).map Record.veiled = (w.get name false).map Record.veiled := by
  have hfound := h.find? name
  rw [Vault.get, Vault.get, live_eq, live_eq]
  generalize v.find? name = found at hfound
  generalize w.find? name = found' at hfound
  cases hfound with
  | none => rfl
  | some hrq => exact congrArg Except.ok hrq.veiled

/-- The copies that `show` hands out, if its filter looks at nothing that is hidden. -/
theorem Alike.show (h : v.Alike w) {filter : Option Filter}
    (hopen : ∀ f, filter = some f → ∀ key ∈ f.keys, ∀ r ∈ v.records, r.IsOpenAt key) :
    (v.show filter).map Record.veiled = (w.show filter).map Record.veiled := by
  rw [Vault.show, Vault.show, List.map_map, List.map_map]
  exact map_eq_of_forall₂ (h.reveal hopen) fun r q hrq => hrq.veiled

/-- Whatever the filter, each copy is one that the other vault has as well. -/
theorem Alike.exists_of_mem_show (h : v.Alike w) {filter : Option Filter} {r : Record}
    (hr : r ∈ v.show filter) : ∃ q ∈ w.show none, r.veiled = q.veiled := by
  have hall : r ∈ v.show none := by
    rw [Vault.show, List.mem_map] at hr ⊢
    obtain ⟨p, hp, rfl⟩ := hr
    refine ⟨p, ?_, rfl⟩
    cases filter with
    | none => exact hp
    | some f => exact (List.mem_filter.mp hp).1
  have hshow : (v.show none).map Record.veiled = (w.show none).map Record.veiled := by
    apply h.show
    intro f hf
    cases hf
  have hveiled : r.veiled ∈ (w.show none).map Record.veiled := by
    rw [← hshow]
    exact List.mem_map_of_mem hall
  obtain ⟨q, hq, heq⟩ := List.mem_map.mp hveiled
  exact ⟨q, hq, heq.symm⟩

/-- Whether a field repeats what the record of a name holds. -/
def Repeats (v : Vault) (name : String) (f : Field) : Prop :=
  (v.find? name).bind (·.field? f.key) = some f

/-- What `set` yields, besides the vault: the record as far as a copy of it shows, and the ids that
are left. -/
theorem Alike.set (h : v.Alike w) {β : Type} (copy : Record → β) (ids : IdSource) {name : String}
    {fields : List Field}
    (hcopy : ∀ r q, v.find? name = some r → w.find? name = some q → r.Alike q →
      Storable name fields → copy { storeFields now r fields with updatedAt := now } =
        copy { storeFields now q fields with updatedAt := now }) :
    (v.set now ids name fields).map (fun (r, _, ids) => (copy r, ids)) =
      (w.set now ids name fields).map fun (r, _, ids) => (copy r, ids) := by
  by_cases hs : Storable name fields
  · rw [set_of_storable now v ids hs, set_of_storable now w ids hs]
    have hfound := h.find? name
    generalize v.find? name = found at hfound hcopy
    generalize w.find? name = found' at hfound hcopy
    cases hfound with
    | none => rfl
    | some hrq =>
      have hsame := hcopy _ _ rfl rfl hrq hs
      show Except.ok (copy _, ids) = Except.ok (copy _, ids)
      rw [hsame]
  · -- A set that is refused is so before either vault is looked at.
    by_cases hname : name = ""
    · simp only [Vault.set, hname, if_true]
      rfl
    · cases hcheck : checkFields [] fields with
      | ok u => exact absurd ⟨hname, checkFields_nil.mp hcheck⟩ hs
      | error e =>
        simp only [Vault.set, hname, hcheck, if_false]
        rfl

/-- What `deleteFields` yields, besides the vault, with the log hidden. -/
theorem Alike.deleteFields (h : v.Alike w) (name : String) (keys : List String) :
    (v.deleteFields now name keys).map (fun (r, _) => r.masked.veiled) =
      (w.deleteFields now name keys).map fun (r, _) => r.masked.veiled := by
  rw [deleteFields_eq, deleteFields_eq]
  have hfound := h.find? name
  generalize v.find? name = found at hfound
  generalize w.find? name = found' at hfound
  cases hfound with
  | none => rfl
  | @some r q hrq =>
    have hkeys : fieldKeys r.fields = fieldKeys q.fields :=
      map_eq_of_forall₂ hrq.fields fun f g hfg => hfg.key
    dsimp only
    rw [hkeys]
    split
    · exact congrArg Except.ok hrq.veiled
    · exact congrArg Except.ok ((dropFields_alike hrq keys).touch now).veiled

theorem Alike.delete (h : v.Alike w) (name : String) :
    (v.delete now name).map (fun _ => ()) = (w.delete now name).map fun _ => () := by
  rw [delete_eq, delete_eq]
  have hfound := h.find? name
  generalize v.find? name = found at hfound
  generalize w.find? name = found' at hfound
  cases hfound <;> rfl

theorem Alike.rename (h : v.Alike w) (old new : String) :
    (v.rename now old new).map (fun (r, _) => r.masked.veiled) =
      (w.rename now old new).map fun (r, _) => r.masked.veiled := by
  rw [rename_eq, rename_eq]
  split
  · rfl
  have hfound := h.find? old
  generalize v.find? old = found at hfound
  generalize w.find? old = found' at hfound
  cases hfound with
  | none => rfl
  | some hrq =>
    dsimp only
    rw [h.contains new]
    split
    · rfl
    · exact congrArg Except.ok (renamed_alike hrq old new).veiled

end Calls

end Vault

/-! ### Sessions -/

namespace Session

/-- Whether an envelope can be written does not depend on its ciphertext. -/
theorem encode_result (e : Envelope) (a b : Bytes) :
    (Envelope.encode { e with ciphertext := a }).map (fun _ => ()) =
      (Envelope.encode { e with ciphertext := b }).map fun _ => () := by
  rw [Envelope.encode, Envelope.encode]
  have hlegacy : Envelope.isLegacy { e with ciphertext := a } =
      Envelope.isLegacy { e with ciphertext := b } := rfl
  rw [hlegacy]
  split
  · rfl
  dsimp only
  split
  · rfl
  cases Envelope.header e.params e.salt <;> rfl

/-- Whether a save succeeds does not depend on what is saved. -/
theorem save_result (s : Session) (v v' : Vault) (w : World) :
    ({ s with vault := some v }.save w).result = ({ s with vault := some v' }.save w).result := by
  rw [save, save]
  cases s.key with
  | none => rfl
  | some k =>
    dsimp only
    cases Envelope.header k.params k.salt with
    | none => rfl
    | some header =>
      by_cases hkey : k.bytes.length = Sealed.keySize
      · simp only [Sealed.encrypt_eq_ok _ hkey]
        -- The two vaults are sealed to texts that have nothing in common, but nothing looks into
        -- these.
        generalize Gcm.encrypt k.bytes _ _ v.payload = a
        generalize Gcm.encrypt k.bytes _ _ v'.payload = b
        have hencode := encode_result
          { salt := k.salt, nonce := (w.random.draw Sealed.nonceSize).1, ciphertext := [],
            params := k.params } a b
        obtain ⟨e, ha, hb⟩ | ⟨bytes, bytes', ha, hb, -⟩ := cases_of_map_eq hencode
        · simp only [ha, hb]
        · have hstore := Disk.store_result w.disk s.path bytes bytes'
          simp only [ha, hb]
          generalize w.disk.store s.path bytes = step at hstore ⊢
          generalize w.disk.store s.path bytes' = step' at hstore ⊢
          obtain ⟨stored, d⟩ := step
          obtain ⟨stored', d'⟩ := step'
          obtain rfl : stored = stored' := hstore
          cases stored <;> rfl
      · simp only [Sealed.encrypt, ne_eq, hkey, not_false_eq_true, if_true]

theorem commit_result (c : Command) (r : CommandResult) (v : Vault) (s : Session) (w : World) :
    (s.commit c r v w).result =
      (({ s with vault := some v }.save w).result.mapError ExecuteError.session).map
        fun _ => { r with saved := true } := by
  rw [commit]
  generalize { s with vault := some v }.save w = saved
  obtain ⟨result, s', w'⟩ := saved
  cases result <;> rfl

end Session

def CommandResult.mapRecords (f : Record → Record) (r : CommandResult) : CommandResult :=
  { r with records := r.records.map f }

/-- What a command yields, or its error, with the records as far as `f` shows them. -/
def Outcome.shown (f : Record → Record) (o : Outcome ExecuteError CommandResult) :
    Except ExecuteError CommandResult :=
  o.result.map (CommandResult.mapRecords f)

/-- The logs of the records that a command yields, or its error. -/
def Outcome.logs (o : Outcome ExecuteError CommandResult) :
    Except ExecuteError (List (List HistoryEntry)) :=
  o.result.map fun r => r.records.map Record.history

theorem Record.eq_of_unlogged : ∀ {rs qs : List Record},
    rs.map Record.unlogged = qs.map Record.unlogged →
    rs.map Record.history = qs.map Record.history → rs = qs
  | [], [], _, _ => rfl
  | [], _ :: _, h, _ => by cases h
  | _ :: _, [], h, _ => by cases h
  | r :: rs, q :: qs, h, hlogs => by
    rw [List.map_cons, List.map_cons, List.cons_eq_cons] at h hlogs
    have hrq : r = { r.unlogged with history := r.history } := rfl
    rw [h.1, hlogs.1] at hrq
    rw [hrq, eq_of_unlogged h.2 hlogs.2]
    rfl

theorem Outcome.result_eq_iff {o o' : Outcome ExecuteError CommandResult}
    (h : o.shown Record.unlogged = o'.shown Record.unlogged) :
    o.result = o'.result ↔ o.logs = o'.logs := by
  unfold Outcome.shown at h
  unfold Outcome.logs
  constructor
  · intro hresult
    rw [hresult]
  · intro hlogs
    obtain ⟨result, _, _⟩ := o
    obtain ⟨result', _, _⟩ := o'
    dsimp only at h hlogs ⊢
    cases result with
    | error e => cases result' <;> cases h; rfl
    | ok r =>
      cases result' with
      | error e => cases h
      | ok r' =>
        obtain ⟨message, records, history, copied, report, saved⟩ := r
        obtain ⟨message', records', history', copied', report', saved'⟩ := r'
        simp only [Except.map, CommandResult.mapRecords, Except.ok.injEq, CommandResult.mk.injEq]
          at h hlogs ⊢
        exact ⟨h.1, Record.eq_of_unlogged h.2.1 hlogs, h.2.2⟩

theorem Outcome.shown_unlogged {o o' : Outcome ExecuteError CommandResult}
    (h : o.shown Record.veiled = o'.shown Record.veiled) :
    o.shown Record.unlogged = o'.shown Record.unlogged := by
  have hshown : ∀ o : Outcome ExecuteError CommandResult,
      o.shown Record.unlogged = (o.shown Record.veiled).map (.mapRecords Record.unlogged) := by
    intro o
    unfold Outcome.shown
    cases o.result with
    | error e => rfl
    | ok r =>
      simp only [Except.map, CommandResult.mapRecords, List.map_map]
      rfl
  rw [hshown, hshown, h]

/-- Whether a command does not ask for what is hidden: it changes a record, or it is discreet. -/
def Command.IsBlind (v : Vault) : Command → Prop
  | .set _ | .delete .. | .rename .. => True
  | .show filter reveal => IsDiscreet v (.show filter reveal)
  | .history name reveal => IsDiscreet v (.history name reveal)
  | .copy .. | .importFile _ => False

/-- Whether a command logs as much in either vault: a field that it sets is in both already, or in
neither. -/
def Command.LogsAlike (v w : Vault) : Command → Prop
  | .set spec => ∀ f ∈ spec.fields, v.Repeats spec.name f ↔ w.Repeats spec.name f
  | _ => True

namespace Session

section Runs

variable {v w : Vault} (s : Session) (current : Path) (world : World)

/-- Results that are shown as the same are so after a save as well. -/
theorem commit_congr {f : Record → Record} {r q : CommandResult}
    (h : r.mapRecords f = q.mapRecords f) (c : Command) (v' w' : Vault) :
    ({ s with vault := some v }.commit c r v' world).shown f =
      ({ s with vault := some w }.commit c q w' world).shown f := by
  have hsave := save_result s v' w' world
  rw [Outcome.shown, Outcome.shown, commit_result, commit_result]
  dsimp only
  rw [hsave]
  cases ({ s with vault := some w' }.save world).result with
  | error e => rfl
  | ok _ => exact congrArg (fun r => Except.ok { r with saved := true }) h

theorem execute_set_alike (h : v.Alike w) {f : Record → Record} (hname : ∀ r, (f r).name = r.name)
    {spec : RecordSpec}
    (hcopy : ∀ r q, v.find? spec.name = some r → w.find? spec.name = some q → r.Alike q →
      Vault.Storable spec.name spec.fields →
      f (Record.masked { Vault.storeFields world.now r spec.fields with updatedAt := world.now }) =
        f (Record.masked
          { Vault.storeFields world.now q spec.fields with updatedAt := world.now })) :
    ({ s with vault := some v }.execute current (.set spec) world).shown f =
      ({ s with vault := some w }.execute current (.set spec) world).shown f := by
  have hset := h.set world.now (fun r => f r.masked) world.ids hcopy
  simp only [execute]
  obtain ⟨e, hv, hw⟩ | ⟨⟨r, v', ids⟩, ⟨q, w', ids'⟩, hv, hw, hsame⟩ := cases_of_map_eq hset
  · rw [hv, hw]
    rfl
  · obtain ⟨hcopies, rfl⟩ := Prod.mk.inj hsame
    have hnames : r.name = q.name := by
      calc r.name = (f r.masked).name := (hname r.masked).symm
        _ = (f q.masked).name := congrArg Record.name hcopies
        _ = q.name := hname q.masked
    simp only [hv, hw, h.contains]
    apply commit_congr s
    simp only [CommandResult.mapRecords, List.map_cons, List.map_nil, hcopies, hnames]

/-- Whatever is hidden in the vault, a blind command is shown as the same with the logs hidden. -/
theorem execute_blind (h : v.Alike w) {c : Command} (hblind : c.IsBlind v)
    (hlogs : c.LogsAlike v w) :
    ({ s with vault := some v }.execute current c world).shown Record.veiled =
      ({ s with vault := some w }.execute current c world).shown Record.veiled := by
  cases c with
  | set spec =>
    -- A field that is stored was stored before in both records or in neither, so the same is
    -- logged.
    apply execute_set_alike s current world (f := Record.veiled) h (fun _ => rfl)
    intro r q hr hq hrq hs
    have hboth : ∀ f ∈ spec.fields, r.field? f.key = some f ↔ q.field? f.key = some f := by
      intro f hf
      have hrepeats := hlogs f hf
      rwa [Vault.Repeats, Vault.Repeats, hr, hq] at hrepeats
    exact ((Vault.storeFields_alike hs.2.2 hrq hboth).touch world.now).veiled
  | delete name keys =>
    cases keys with
    | nil =>
      simp only [execute]
      obtain ⟨e, hv, hw⟩ | ⟨⟨r, v'⟩, ⟨q, w'⟩, hv, hw, -⟩ :=
        cases_of_map_eq (h.delete world.now name)
      · rw [hv, hw]
        rfl
      · simp only [hv, hw]
        exact commit_congr s _ rfl _ v' w'
    | cons key keys =>
      simp only [execute]
      obtain ⟨e, hv, hw⟩ | ⟨⟨r, v'⟩, ⟨q, w'⟩, hv, hw, hsame⟩ :=
        cases_of_map_eq (h.deleteFields world.now name (key :: keys))
      · rw [hv, hw]
        rfl
      · -- The message names the record, and the name is no secret.
        have hveiled : r.masked.veiled = q.masked.veiled := hsame
        have hnames : r.name = q.name := (congrArg Record.name hveiled :)
        simp only [hv, hw, hnames]
        apply commit_congr s
        simp only [CommandResult.mapRecords, List.map_cons, List.map_nil, hveiled]
  | rename old new =>
    simp only [execute]
    obtain ⟨e, hv, hw⟩ | ⟨⟨r, v'⟩, ⟨q, w'⟩, hv, hw, hsame⟩ :=
      cases_of_map_eq (h.rename world.now old new)
    · rw [hv, hw]
      rfl
    · simp only [hv, hw]
      apply commit_congr s
      simp only [CommandResult.mapRecords, List.map_cons, List.map_nil, hsame]
  | «show» filter reveal =>
    obtain ⟨rfl, hopen⟩ := hblind
    have hfound := h.reveal? hopen
    simp only [execute]
    generalize v.reveal? filter = found at hfound
    generalize w.reveal? filter = found' at hfound
    cases hfound with
    | none => rfl
    | @some found found' hrecords =>
      have hcopies : (found.map Record.masked).map Record.veiled =
          (found'.map Record.masked).map Record.veiled := by
        rw [List.map_map, List.map_map]
        exact map_eq_of_forall₂ hrecords fun r q hrq => hrq.veiled
      simp only [Outcome.shown, Except.map, CommandResult.mapRecords, Bool.false_eq_true,
        if_false, List.length_map, hrecords.length_eq, hcopies]
  | history name reveal =>
    obtain rfl : reveal = false := hblind
    simp only [execute, h.history]
    cases w.history name false <;> rfl
  | copy | importFile => exact hblind.elim

/-- Whatever is hidden and whatever is set, the stored record is shown as the same without its log. -/
theorem execute_set_unlogged (h : v.Alike w) (spec : RecordSpec) :
    ({ s with vault := some v }.execute current (.set spec) world).shown Record.unlogged =
      ({ s with vault := some w }.execute current (.set spec) world).shown Record.unlogged := by
  apply execute_set_alike s current world (f := Record.unlogged) h (fun _ => rfl)
  intro r q hr hq hrq hs
  exact ((Vault.unlogged_storeFields hrq spec.fields).touch world.now).copies_unlogged

/-- A blind command is shown as the same without the logs. -/
theorem execute_unlogged (h : v.Alike w) {c : Command} (hblind : c.IsBlind v) :
    ({ s with vault := some v }.execute current c world).shown Record.unlogged =
      ({ s with vault := some w }.execute current c world).shown Record.unlogged := by
  cases c with
  | set spec => exact execute_set_unlogged s current world h spec
  | _ => exact Outcome.shown_unlogged (execute_blind s current world h hblind trivial)

end Runs

theorem shown_set_underTrustedKey {v : Vault} {r : Record} {spec : RecordSpec} (f : Record → Record)
    (hr : v.find? spec.name = some r) (hs : Vault.Storable spec.name spec.fields) :
    ({ underTrustedKey with vault := some v }.execute ⟨false, []⟩ (.set spec)
        State.blankWorld).shown f =
      .ok {
        message := "'" ++ r.name ++ "' saved"
        records := [f (Record.masked { Vault.storeFields (.utc 0) r spec.fields with
          updatedAt := .utc 0 })]
        saved := true } := by
  have hsave (u : Vault) :
      ({ underTrustedKey with vault := some u }.save State.blankWorld).result = .ok () :=
    save_ok rfl rfl rfl State.isAccepted_cheapParams.fitsHeader ⟨by decide, by decide⟩
      State.isFull_blankWorld fun _ => ⟨_, rfl⟩
  have hcontains : v.contains spec.name = true := by
    rw [Vault.contains, hr]
    rfl
  have hset := Vault.set_of_storable State.blankWorld.now v State.blankWorld.ids hs
  rw [hr] at hset
  simp only [execute, hset, hcontains, if_true, Outcome.shown, commit_result]
  rw [hsave]
  simp only [Except.mapError, Except.map, CommandResult.mapRecords, Vault.storeFields_name]
  rfl

/-- The copies of records that are handed out of vaults that are alike. They are the same exactly if
the logs in them are: those of `show` without a filter and of `get`, and those that commands yield
which do not ask for what is hidden; nothing else in the results tells the vaults apart. With the
values in the logs hidden, the copies are the same as long as a field that is set is in both vaults
already or in neither, and whatever a filter looks at, a copy that it selects is one that the other
vault has too. -/
theorem copies_alike {v w : Vault} (h : v.Alike w) :
    (v.show none = w.show none ↔
      v.records.map Record.history = w.records.map Record.history) ∧
    (∀ name, v.get name false = w.get name false ↔
      (v.find? name).map Record.history = (w.find? name).map Record.history) ∧
    (∀ (s : Session) (current : Path) (world : World) (c : Command), c.IsBlind v →
      let o := { s with vault := some v }.execute current c world
      let o' := { s with vault := some w }.execute current c world
      o.shown Record.unlogged = o'.shown Record.unlogged ∧
        (o.result = o'.result ↔ o.logs = o'.logs)) ∧
    (∀ filter, Command.IsDiscreet v (.show filter false) →
      (v.show filter).map Record.veiled = (w.show filter).map Record.veiled) ∧
    (∀ filter, ∀ r ∈ v.show filter, ∃ q ∈ w.show none, r.veiled = q.veiled) ∧
    (∀ name, (v.get name false).map Record.veiled = (w.get name false).map Record.veiled) ∧
    ∀ (s : Session) (current : Path) (world : World) (c : Command), c.IsBlind v →
      c.LogsAlike v w →
      ({ s with vault := some v }.execute current c world).shown Record.veiled =
        ({ s with vault := some w }.execute current c world).shown Record.veiled := by
  refine ⟨h.show_eq_iff, h.get_eq_iff, ?_, ?_, ?_, h.get, ?_⟩
  · intro s current world c hblind
    have hshown := execute_unlogged s current world h hblind
    exact ⟨hshown, Outcome.result_eq_iff hshown⟩
  · intro filter hdiscreet
    exact h.show hdiscreet.2
  · intro filter r hr
    exact h.exists_of_mem_show hr
  · intro s current world c hblind hlogs
    exact execute_blind s current world h hblind hlogs

/-- As long as the former password and the number of a deleted account are the same, no copy tells the
password of an account. If they are not, nothing but the logs of the copies tells them, not even when
the password is guessed and set again. -/
theorem copies_alike_mailAndBank :
    let v := Shell.mailAndBank "hunter2" "hunter1" "0000"
    let w := Shell.mailAndBank "swordfish" "hunter1" "0000"
    let u := Shell.mailAndBank "swordfish" "tuna" "1234"
    let run (v : Vault) (c : Command) :=
      { underTrustedKey with vault := some v }.execute ⟨false, []⟩ c State.blankWorld
    v ≠ w ∧ v.show none = w.show none ∧ v.get "mail" false = w.get "mail" false ∧
      v.show none ≠ u.show none ∧ (v.show none).map Record.veiled = (u.show none).map Record.veiled ∧
      (∀ c ∈ [.set ⟨"mail", [⟨"pass", "hunter2", true⟩]⟩, .delete "mail" ["pass"],
          .rename "mail" "post"],
        (run v c).shown Record.unlogged = (run u c).shown Record.unlogged) := by
  intro v w u run
  obtain ⟨hshow, hget, -⟩ :=
    copies_alike (Shell.alike_mailAndBank "hunter2" "hunter1" "0000" "swordfish" "hunter1" "0000")
  obtain ⟨hdiffer, -, hrun, hveiled, -⟩ :=
    copies_alike (Shell.alike_mailAndBank "hunter2" "hunter1" "0000" "swordfish" "tuna" "1234")
  refine ⟨by decide, hshow.mpr (by decide), (hget "mail").mpr (by decide),
    fun heq => absurd (hdiffer.mp heq) (by decide), hveiled none ⟨rfl, nofun⟩, ?_⟩
  intro c hc
  refine (hrun underTrustedKey _ _ c ?_).1
  simp only [List.mem_cons, List.not_mem_nil, or_false] at hc
  obtain rfl | rfl | rfl := hc <;> trivial

/-- Copies tell what is hidden by their logs, which are the records' own, by what a filter selects,
and by the entry that a value leaves in the log if it was another one before. -/
theorem copies_differ_mailAndBank :
    let v := Shell.mailAndBank "hunter2" "hunter1" "0000"
    let w := Shell.mailAndBank "swordfish" "tuna" "1234"
    let run (v : Vault) (c : Command) :=
      { underTrustedKey with vault := some v }.execute ⟨false, []⟩ c State.blankWorld
    let guess : Filter := .atom ⟨.field "pass", .is "hunter2"⟩
    let again : RecordSpec := ⟨"mail", [⟨"pass", "hunter2", true⟩]⟩
    v.Alike w ∧ v.show none ≠ w.show none ∧ v.get "mail" false ≠ w.get "mail" false ∧
      (v.show (some guess)).map Record.veiled ≠ (w.show (some guess)).map Record.veiled ∧
      (run v (.set again)).shown Record.veiled ≠ (run w (.set again)).shown Record.veiled := by
  intro v w run guess again
  refine ⟨Shell.alike_mailAndBank _ _ _ _ _ _, by decide, by decide, by decide +kernel, ?_⟩
  have hv : (run v (.set again)).shown Record.veiled = _ :=
    shown_set_underTrustedKey Record.veiled rfl (by decide)
  have hw : (run w (.set again)).shown Record.veiled = _ :=
    shown_set_underTrustedKey Record.veiled rfl (by decide)
  rw [hv, hw]
  decide

end Session

end Coffer
