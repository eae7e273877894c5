import Coffer.Proofs.Session.Command

/-!
A write that fails does no damage. `Session.Writes` says what a step does to the disk: it stores the
session's file, which is then the vault sealed under the key and the nonce drawn last
(`Session.image`), or no file changes. Hence after any deeds a file that nobody else writes is as it
was at the start, or the image of the session that last saved there (`State.IsReady.file?_run`), and
every other file, drafts among them, is as it was.

When the file of an open session cannot be written, `save` and `changePassword` leave a session that
goes on as if nothing had happened (`State.RolledBack`), and `create` leaves none
(`State.undamaged`).
-/

namespace Coffer

/-- The bytes drawn last, if so many were asked for. -/
def RandomSource.last (s : RandomSource) (size : Nat) : Bytes :=
  s.bytes (s.calls - 1) size

theorem Sealed.eq_of_encrypt {random random' : RandomSource} {key text nonce ciphertext : Bytes}
    {data : Option Bytes} (h : encrypt random key text data = .ok ((nonce, ciphertext), random')) :
    nonce = random'.last nonceSize ∧ ciphertext = Gcm.encrypt key nonce (data.getD []) text := by
  unfold encrypt at h
  split at h
  · cases h
  · cases h
    exact ⟨rfl, rfl⟩

namespace Session

/-- The file of a session that was just saved: its vault, sealed under its key and the nonce drawn
last. -/
def image (s : Session) (w : World) : Option Bytes := do
  let v ← s.vault
  let k ← s.key
  let header ← Envelope.header k.params k.salt
  let nonce := w.random.last Sealed.nonceSize
  let ciphertext := Gcm.encrypt k.bytes nonce header v.payload
  (Envelope.encode { salt := k.salt, nonce, ciphertext, params := k.params }).toOption

/-! ### Steps -/

/-- What a step of a session may do to the disk: store the session's file, leave the disk alone, or
be refused by it. -/
inductive Writes (s : Session) (w : World) (s' : Session) (w' : World) : Bool → Prop
  | stored {bytes : Bytes} (path : s'.path = s.path) (image : s'.image w' = some bytes)
      (store : w.disk.store s.path bytes = (.ok (), w'.disk)) : Writes s w s' w' true
  | kept (path : s'.path = s.path) (disk : w'.disk = w.disk) : Writes s w s' w' false
  | refused (path : s'.path = s.path) (disk : w.disk.Refused s.path w'.disk) :
      Writes s w s' w' false

variable {s s' : Session} {w w' : World} {v : Vault} {k : SessionKey}

namespace Writes

/-- What was done before does not matter, if it left the path and the disk alone. -/
theorem congr {s₁ : Session} {w₁ : World} {saved : Bool} (h : Writes s₁ w₁ s' w' saved)
    (hpath : s₁.path = s.path) (hdisk : w₁.disk = w.disk) : Writes s w s' w' saved := by
  cases h with
  | stored path image store => exact .stored (path.trans hpath) image (hpath ▸ hdisk ▸ store)
  | kept path disk => exact .kept (path.trans hpath) (disk.trans hdisk)
  | refused path disk => exact .refused (path.trans hpath) (hpath ▸ hdisk ▸ disk)

theorem of_false {s'' : Session} (h : Writes s w s' w' false) (hpath : s''.path = s'.path) :
    Writes s w s'' w' false := by
  cases h with
  | kept path disk => exact .kept (hpath.trans path) disk
  | refused path disk => exact .refused (hpath.trans path) disk

theorem note {saved : Bool} (h : Writes s w s' w' saved) (e : Event) :
    Writes s w s' (w'.note e) saved := by
  cases h with
  | stored path image store => exact .stored path image store
  | kept path disk => exact .kept path disk
  | refused path disk => exact .refused path disk

theorem path_eq {saved : Bool} (h : Writes s w s' w' saved) : s'.path = s.path := by
  cases h <;> assumption

theorem eq_false_of_isFull {saved : Bool} (h : Writes s w s' w' saved)
    (hfull : w.disk.isFull = true) : saved = false := by
  cases h with
  | @stored bytes path image store =>
    obtain ⟨e, hrefused⟩ := Disk.store_of_isFull hfull s.path bytes
    rw [hrefused] at store
    cases store
  | kept => rfl
  | refused => rfl

end Writes

theorem save_writes (s : Session) (w : World) :
    Writes s w (s.save w).session (s.save w).world (s.save w).result.isOk := by
  unfold save
  cases hv : s.vault with
  | none => exact .kept rfl rfl
  | some v =>
    cases hkey : s.key with
    | none => exact .kept rfl rfl
    | some k =>
      dsimp only
      cases hheader : Envelope.header k.params k.salt with
      | none => exact .kept rfl rfl
      | some header =>
        dsimp only
        cases hencrypt : Sealed.encrypt w.random k.bytes v.payload (some header) with
        | error e => exact .kept rfl rfl
        | ok drawn =>
          obtain ⟨⟨nonce, ciphertext⟩, random⟩ := drawn
          obtain ⟨rfl, rfl⟩ := Sealed.eq_of_encrypt hencrypt
          dsimp only
          cases hencode : Envelope.encode _ with
          | error e => exact .kept rfl rfl
          | ok bytes =>
            dsimp only
            cases hstore : w.disk.store s.path bytes with
            | mk result disk =>
              cases result with
              | error e => exact .refused rfl ⟨bytes, e, hstore⟩
              | ok u =>
                refine .stored rfl ?_ hstore
                simp only [image, Option.bind_eq_bind, Option.bind_some, hheader]
                exact congrArg Except.toOption hencode

theorem rekey_keeps (password : Password) (s : Session) (w : World) :
    (s.rekey password w).session.path = s.path ∧ (s.rekey password w).world.disk = w.disk := by
  unfold rekey
  dsimp only
  split <;> exact ⟨rfl, rfl⟩

theorem unlock_keeps (password : Password) (s : Session) (w : World) :
    (s.unlock password w).session.path = s.path ∧ (s.unlock password w).world.disk = w.disk := by
  unfold unlock
  obtain ⟨e, hload, -⟩ | ⟨bytes, envelope, -, -, hload⟩ := load_cases s w <;> rw [hload]
  · exact ⟨rfl, rfl⟩
  dsimp only
  split
  · exact ⟨rfl, rfl⟩
  · exact ⟨rfl, rfl⟩
  split
  · exact ⟨rfl, rfl⟩
  split
  · have hrekey := rekey_keeps password s (w.note (.fileLoaded envelope.version bytes.length))
    generalize s.rekey password _ = rekeyed at hrekey
    obtain ⟨_ | u, s₁, w₁⟩ := rekeyed <;> exact hrekey
  · exact ⟨rfl, rfl⟩

theorem create_writes (password : Password) (s : Session) (w : World) :
    Writes s w (s.create password w).session (s.create password w).world
      (s.create password w).result.isOk := by
  unfold create
  split
  · exact .kept rfl rfl
  · obtain ⟨hpath, hdisk⟩ := rekey_keeps password s w
    generalize s.rekey password w = rekeyed at hpath hdisk
    obtain ⟨_ | u, s₁, w₁⟩ := rekeyed
    · exact .kept hpath hdisk
    · have hsave := (save_writes { s₁ with vault := some .empty } w₁).congr (s := s) hpath hdisk
      dsimp only
      generalize Session.save _ w₁ = saved at hsave
      obtain ⟨e | u, s₂, w₂⟩ := saved
      · cases e <;> exact hsave.of_false rfl
      · exact hsave.note _

theorem changePassword_writes (password : Password) (s : Session) (w : World) :
    Writes s w (s.changePassword password w).session (s.changePassword password w).world
      (s.changePassword password w).result.isOk := by
  unfold changePassword
  split
  · exact .kept rfl rfl
  · obtain ⟨hpath, hdisk⟩ := rekey_keeps password { s with key := none } w
    dsimp only
    generalize Session.rekey password _ w = rekeyed at hpath hdisk
    obtain ⟨_ | u, s₁, w₁⟩ := rekeyed
    · exact .kept hpath hdisk
    · have hsave := (save_writes s₁ w₁).congr (s := s) hpath hdisk
      dsimp only
      generalize s₁.save w₁ = saved at hsave
      obtain ⟨e | u, s₂, w₂⟩ := saved
      · cases e <;> exact hsave.of_false rfl
      · exact hsave.note _

/-- Whether a command was followed by a save. -/
def savedBy : Except ExecuteError CommandResult → Bool
  | .ok r => r.saved
  | .error _ => false

theorem savedBy_of_isReading {c : Command} (hc : c.isReading = true) (current : Path) (s : Session)
    (w : World) : savedBy (s.execute current c w).result = false := by
  unfold execute
  cases s.vault with
  | none => rfl
  | some v =>
    cases c with
    | «show» filter reveal =>
      dsimp only
      cases v.reveal? filter <;> rfl
    | history name reveal =>
      dsimp only
      cases v.history name reveal <;> rfl
    | copy name key =>
      dsimp only
      cases v.fieldValue name key <;> rfl
    | _ => contradiction

theorem commit_writes (c : Command) (r : CommandResult) (v : Vault) (s : Session) (w : World) :
    Writes s w (s.commit c r v w).session (s.commit c r v w).world
      (savedBy (s.commit c r v w).result) := by
  have hsave := (save_writes { s with vault := some v } w).congr (s := s) rfl rfl
  unfold commit
  generalize Session.save _ w = saved at hsave
  obtain ⟨e | u, s₁, w₁⟩ := saved
  · exact hsave
  · exact hsave.note _

theorem execute_writes (current : Path) (c : Command) (s : Session) (w : World) :
    Writes s w (s.execute current c w).session (s.execute current c w).world
      (savedBy (s.execute current c w).result) := by
  cases hv : s.vault with
  | none =>
    rw [execute_of_locked hv]
    exact .kept rfl rfl
  | some v =>
    obtain hspares | ⟨call, r, w₁, -, -, heq, -, hdisk₁⟩ := execute_cases hv current c w
    · -- What left the session and the world alone was a failure or a look, and neither is saved.
      have hsaved : savedBy (s.execute current c w).result = false := by
        cases hresult : (s.execute current c w).result with
        | error e => rfl
        | ok r =>
          rw [← hresult]
          exact savedBy_of_isReading (hspares.looked r hresult) current s w
      rw [hsaved, hspares.session, hspares.world]
      exact .kept rfl rfl
    · rw [heq]
      exact (commit_writes c r _ s w₁).congr rfl hdisk₁

/-! ### Runs -/

namespace State

def saves (t : State) : Deed → Bool
  | .create password => (t.session.create password t.world).result.isOk
  | .execute current c => savedBy (t.session.execute current c t.world).result
  | .save => (t.session.save t.world).result.isOk
  | .changePassword password => (t.session.changePassword password t.world).result.isOk
  | _ => false

/-- The state right after the last deed that wrote the file at a place, if one did. -/
def lastSave (p : Path) (t : State) : List Deed → Option State
  | [] => none
  | d :: deeds =>
    (lastSave p (t.step d) deeds).or
      (if t.saves d = true ∧ t.session.path = p then some (t.step d) else none)

/-- Whether a deed, where it is done, leaves the file at a place to the sessions. -/
def Leaves (p : Path) (t : State) : Deed → Prop
  | .disturb disk => disk.file? p = t.world.disk.file? p
  | _ => True

/-- Whether nobody but sessions writes the file at a place. -/
def LeavesAll (p : Path) : State → List Deed → Prop
  | _, [] => True
  | t, d :: deeds => t.Leaves p d ∧ LeavesAll p (t.step d) deeds

def places (path : Path) (deeds : List Deed) : List Path :=
  path :: deeds.filterMap fun
    | .renew path _ => some path
    | _ => none

variable {t : State} {p : Path} {d : Deed} {deeds : List Deed}

/-- A deed starts over, or the disk becomes another one, or the session's step writes what it may. -/
theorem step_cases (t : State) (d : Deed) :
    (∃ path params, d = .renew path params) ∨ (∃ disk, d = .disturb disk) ∨
    Writes t.session t.world (t.step d).session (t.step d).world (t.saves d) := by
  cases d with
  | renew path params => exact .inl ⟨path, params, rfl⟩
  | disturb disk => exact .inr (.inl ⟨disk, rfl⟩)
  | create password => exact .inr (.inr (create_writes password t.session t.world))
  | unlock password =>
    obtain ⟨hpath, hdisk⟩ := unlock_keeps password t.session t.world
    exact .inr (.inr (.kept hpath hdisk))
  | execute current c => exact .inr (.inr (execute_writes current c t.session t.world))
  | call c =>
    rw [State.step]
    cases t.session.vault <;> exact .inr (.inr (.kept rfl rfl))
  | save => exact .inr (.inr (save_writes t.session t.world))
  | changePassword password =>
    exact .inr (.inr (changePassword_writes password t.session t.world))
  | close => exact .inr (.inr (.kept rfl rfl))
  | wait now => exact .inr (.inr (.kept rfl rfl))

/-- The file at a place is what a state, right after it was saved, has for its image. -/
def HoldsImage (d : Disk) (p : Path) (t : State) : Prop :=
  ∃ bytes, t.session.image t.world = some bytes ∧ d.file? p = some bytes

theorem IsReady.file?_step (h : t.IsReady) (hleaves : t.Leaves p d) :
    (t.saves d = true ∧ t.session.path = p) ∧ HoldsImage (t.step d).world.disk p (t.step d) ∨
    ¬ (t.saves d = true ∧ t.session.path = p) ∧
      (t.step d).world.disk.file? p = t.world.disk.file? p := by
  obtain ⟨path, params, rfl⟩ | ⟨disk, rfl⟩ | hwrites := step_cases t d
  · exact .inr ⟨by simp [saves], rfl⟩
  · exact .inr ⟨by simp [saves], hleaves⟩
  generalize t.saves d = saved at hwrites
  cases hwrites with
  | @stored bytes path image store =>
    by_cases hp : t.session.path = p
    · subst hp
      have hfile : (t.step d).world.disk.file? t.session.path = some bytes := by
        rw [Disk.file?, Disk.read_store store]
        rfl
      exact .inl ⟨⟨rfl, rfl⟩, bytes, image, hfile⟩
    · exact .inr ⟨fun hsaves => hp hsaves.2, h.tree.file?_store store (Ne.symm hp)⟩
  | kept path disk => exact .inr ⟨by simp, by rw [disk]⟩
  | refused path disk => exact .inr ⟨by simp, disk.file? h.tree p⟩

/-- After deeds, a file that nobody but sessions writes is what was saved there last, or, if nothing
was, as it was before. -/
theorem IsReady.file?_run (h : t.IsReady) (hproper : ∀ d ∈ deeds, d.IsProper)
    (hleaves : t.LeavesAll p deeds) :
    (∃ t', lastSave p t deeds = some t' ∧ HoldsImage (t.run deeds).world.disk p t') ∨
    lastSave p t deeds = none ∧ (t.run deeds).world.disk.file? p = t.world.disk.file? p := by
  induction deeds generalizing t with
  | nil => exact .inr ⟨rfl, rfl⟩
  | cons d deeds ih =>
    obtain ⟨hd, hproper⟩ := List.forall_mem_cons.mp hproper
    rw [lastSave]
    -- A save among the other deeds hides what the first one did.
    obtain ⟨t', hlast, himage⟩ | ⟨hlast, hfile⟩ := ih (h.step hd) hproper hleaves.2
    · exact .inl ⟨t', by rw [hlast, Option.some_or], himage⟩
    · rw [hlast, Option.none_or]
      change (t.run (d :: deeds)).world.disk.file? p = _ at hfile
      obtain ⟨hsaves, bytes, himage, hfile'⟩ | ⟨hsaves, hfile'⟩ := h.file?_step hleaves.1
      · exact .inl ⟨t.step d, if_pos hsaves, bytes, himage, hfile.trans hfile'⟩
      · exact .inr ⟨if_neg hsaves, hfile.trans hfile'⟩

theorem places_step (t : State) (d : Deed) (deeds : List Deed) :
    places (t.step d).session.path deeds ⊆ places t.session.path (d :: deeds) := by
  -- Apart from a fresh start no deed moves the session, so what counts is what is still to come.
  have hstay : (t.step d).session.path = t.session.path →
      places (t.step d).session.path deeds ⊆ places t.session.path (d :: deeds) := by
    intro hpath
    rw [hpath]
    refine List.cons_subset_cons _ fun q hq => ?_
    obtain ⟨d', hd', heq⟩ := List.mem_filterMap.mp hq
    exact List.mem_filterMap.mpr ⟨d', List.mem_cons_of_mem d hd', heq⟩
  obtain ⟨path, params, rfl⟩ | ⟨disk, rfl⟩ | hwrites := step_cases t d
  · exact List.subset_cons_self ..
  · exact hstay rfl
  · exact hstay hwrites.path_eq

theorem lastSave_eq_none (hp : p ∉ places t.session.path deeds) :
    lastSave p t deeds = none := by
  induction deeds generalizing t with
  | nil => rfl
  | cons d deeds ih =>
    have hpath : ¬ t.session.path = p := by
      rintro rfl
      exact hp (List.mem_cons_self ..)
    have hnext : p ∉ places (t.step d).session.path deeds :=
      fun hmem => hp (places_step t d deeds hmem)
    rw [lastSave, ih hnext, Option.none_or,
      if_neg fun hsaves => hpath hsaves.2]

/-! ### Failing -/

/-- A step could not write the file of an open session, and nothing is lost: the session and all
files are as they were, so the password is still the right one, and as soon as a disk takes the file
it is saved under that password. -/
structure RolledBack (t : State) (o : Outcome SessionError Unit) : Prop where
  session : o.session = t.session
  files : ∀ q, o.world.disk.file? q = t.world.disk.file? q
  verifies : o.session.verify t.password = .ok true
  retries : ∀ w : World, w.random.IsFull → w.disk.Takes o.session.path →
    ∃ v w', o.session.vault = some v ∧
      o.session.save w = ⟨.ok (), { o.session with savedRevision := some v.revision }, w'⟩ ∧
      Holds w'.disk o.session.path t.password v

/-- The disk refused the file, and the session is as before. -/
theorem IsDurable.rolledBack (h : t.IsDurable) (htree : t.world.disk.IsTree)
    (hopen : t.session.isOpen = true) {o : Outcome SessionError Unit} (hsession : o.session = t.session)
    (hdisk : t.world.disk.Refused t.session.path o.world.disk) : t.RolledBack o := by
  obtain ⟨v, k, hv, hkey⟩ := exists_of_isOpen hopen
  have hk := h.key k hkey
  refine ⟨hsession, hdisk.file? htree, ?_, ?_⟩
  · rw [hsession, verify, hv, hkey]
    simp only [hk.derived, beq_self_eq_true]
  · rw [hsession]
    intro w hw htakes
    -- With a key of its own, a session is saved unless the disk refuses the file, and this one does
    -- not.
    obtain ⟨w', heq, -, hsealed⟩ | ⟨f, w', -, -, bytes, e, hstore⟩ :=
      save_cases hv hkey hk.isFit (h.sound v hv) hw
    · exact ⟨v, w', hv, heq, hsealed.holds hk⟩
    · obtain ⟨d, hd⟩ := htakes bytes
      rw [hd] at hstore
      cases hstore

/-- An open session is saved, or nothing is lost. -/
theorem IsDurable.save_or_rolledBack (h : t.IsDurable) (htree : t.world.disk.IsTree)
    (hopen : t.session.isOpen = true) : (t.session.save t.world).result = .ok () ∨
      (∃ e, (t.session.save t.world).result = .error (.file e)) ∧
        t.RolledBack (t.session.save t.world) := by
  obtain ⟨v, k, hv, hkey⟩ := exists_of_isOpen hopen
  obtain ⟨w, heq, -, -⟩ | ⟨e, w, heq, -, hdisk⟩ :=
    save_cases hv hkey (h.key k hkey).isFit (h.sound v hv) h.full
  · rw [heq]
    exact .inl rfl
  · rw [heq]
    exact .inr ⟨⟨_, rfl⟩, h.rolledBack htree hopen rfl hdisk⟩

/-- An open session is sealed under the new password, or nothing is lost. -/
theorem IsDurable.changePassword_or_rolledBack (h : t.IsDurable) (htree : t.world.disk.IsTree)
    (hopen : t.session.isOpen = true) (password : String) :
    (t.session.changePassword password t.world).result = .ok () ∨
      (∃ e, (t.session.changePassword password t.world).result = .error (.file e)) ∧
        t.RolledBack (t.session.changePassword password t.world) := by
  obtain ⟨v, k, hv, hkey⟩ := exists_of_isOpen hopen
  obtain ⟨k', w, heq, -, -, -⟩ | ⟨e, w, heq, -, hdisk⟩ :=
    changePassword_cases hv hkey h.params (h.sound v hv) h.full password
  · rw [heq]
    exact .inl rfl
  · rw [heq]
    exact .inr ⟨⟨_, rfl⟩, h.rolledBack htree hopen rfl hdisk⟩

theorem IsDurable.save_rolledBack (h : t.IsDurable) (htree : t.world.disk.IsTree) {e : FileError}
    (he : (t.session.save t.world).result = .error (.file e)) :
    t.RolledBack (t.session.save t.world) := by
  cases hopen : t.session.isOpen with
  | false =>
    rw [save_of_closed hopen] at he
    cases he
  | true =>
    obtain hok | ⟨-, hback⟩ := h.save_or_rolledBack htree hopen
    · cases hok.symm.trans he
    · exact hback

theorem IsDurable.changePassword_rolledBack (h : t.IsDurable) (htree : t.world.disk.IsTree)
    {password : Password} {e : FileError}
    (he : (t.session.changePassword password t.world).result = .error (.file e)) :
    t.RolledBack (t.session.changePassword password t.world) := by
  obtain ⟨text, rfl⟩ := exists_text_of_changePassword h.params h.full he
  cases hopen : t.session.isOpen with
  | false =>
    rw [changePassword_of_closed hopen] at he
    cases he
  | true =>
    obtain hok | ⟨-, hback⟩ := h.changePassword_or_rolledBack htree hopen text
    · cases hok.symm.trans he
    · exact hback

/-- A step could not write the file of a new vault: the session is closed, there is nothing where the
file was to be, and all files are as they were. -/
structure Abandoned (t : State) (o : Outcome SessionError Unit) : Prop where
  session : o.session = t.session.close
  absent : o.world.disk.isPresent t.session.path = false
  files : ∀ q, o.world.disk.file? q = t.world.disk.file? q

theorem IsReady.create_abandoned (h : t.IsReady) {password : Password} {e : DiskError} {path : String}
    (he : (t.session.create password t.world).result = .error (.file ⟨.cannotWrite e, path⟩)) :
    t.Abandoned (t.session.create password t.world) := by
  obtain ⟨text, rfl⟩ := exists_text_of_create h.params h.full he
  cases hfree : t.world.disk.isPresent t.session.path with
  | true =>
    rw [Session.create, if_pos hfree] at he
    cases he
  | false =>
    obtain ⟨k, bytes, random, -, -, -, hcreate⟩ := create_eq h.params h.full text hfree
    cases hstore : t.world.disk.store t.session.path bytes with
    | mk result disk =>
      rw [hstore] at hcreate
      cases result with
      | ok u =>
        rw [hcreate] at he
        cases he
      | error e =>
        -- Folders may have been made on the way, but no file.
        have hrefused : t.world.disk.Refused t.session.path disk := ⟨bytes, e, hstore⟩
        rw [hcreate]
        exact ⟨rfl, hrefused.isPresent h.tree hfree, hrefused.file? h.tree⟩

theorem IsDurable.fails_of_isFull (h : t.IsDurable) (htree : t.world.disk.IsTree)
    (hopen : t.session.isOpen = true) (hfull : t.world.disk.isFull = true) (password : String) :
    (∃ e, (t.session.save t.world).result = .error (.file e)) ∧
      ∃ e, (t.session.changePassword password t.world).result = .error (.file e) := by
  constructor
  · obtain hok | ⟨hfails, -⟩ := h.save_or_rolledBack htree hopen
    · have hsaved := (save_writes t.session t.world).eq_false_of_isFull hfull
      rw [hok] at hsaved
      contradiction
    · exact hfails
  · obtain hok | ⟨hfails, -⟩ := h.changePassword_or_rolledBack htree hopen password
    · have hsaved := (changePassword_writes password t.session t.world).eq_false_of_isFull hfull
      rw [hok] at hsaved
      contradiction
    · exact hfails

theorem IsReady.saves_create (h : t.IsReady) {password : String} (hclosed : t.session.vault = none)
    (hopen : (t.step (.create password)).session.vault ≠ none) :
    t.saves (.create password) = true := by
  rw [State.step] at hopen
  obtain ⟨e, heq⟩ | ⟨k, w, heq, -⟩ | ⟨e, w, heq, -⟩ := create_cases h.params h.full password
  · rw [heq] at hopen
    exact absurd hclosed hopen
  · rw [saves, heq]
    rfl
  · rw [heq] at hopen
    exact absurd rfl hopen

/-- After any deeds, with the disk failing at any of them, a file that nobody but sessions writes is
the image of the session that was saved there last, or, if none was, as it was at the start; a file
that is no session's, such as a draft, is as it was at the start. And the next step may fail as well:
when `save` or `changePassword` cannot write the file, nothing is lost, and when `create` cannot, the
session is closed and there is no file. -/
theorem undamaged {path : Path} {params : KeyParams} {w : World} {deeds : List Deed}
    (hfull : w.random.IsFull) (hnow : w.now.IsValid) (htree : w.disk.IsTree)
    (hparams : params.IsAccepted) (hproper : ∀ d ∈ deeds, d.IsProper)
    (hall : (start path params w).AllowsAll deeds) :
    let t := (start path params w).run deeds
    (∀ q, (start path params w).LeavesAll q deeds →
      ((∃ t', lastSave q (start path params w) deeds = some t' ∧ HoldsImage t.world.disk q t') ∨
        lastSave q (start path params w) deeds = none ∧
          t.world.disk.file? q = w.disk.file? q) ∧
      (q ∉ places path deeds → t.world.disk.file? q = w.disk.file? q)) ∧
    (∀ e, (t.session.save t.world).result = .error (.file e) →
      t.RolledBack (t.session.save t.world)) ∧
    (∀ password e, (t.session.changePassword password t.world).result = .error (.file e) →
      t.RolledBack (t.session.changePassword password t.world)) ∧
    ∀ password e text,
      (t.session.create password t.world).result = .error (.file ⟨.cannotWrite e, text⟩) →
      t.Abandoned (t.session.create password t.world) := by
  intro t
  have hstart : (start path params w).IsReady := isReady_start hfull hnow htree hparams
  have hready : t.IsReady := hstart.run hproper
  have hdurable : t.IsDurable := (isDurable_start hfull hnow hparams).run hall
  refine ⟨fun q hleaves => ?_, fun e he => hdurable.save_rolledBack hready.tree he,
    fun password e he => hdurable.changePassword_rolledBack hready.tree he,
    fun password e text he => hready.create_abandoned he⟩
  have hfile := hstart.file?_run hproper hleaves
  refine ⟨hfile, fun hq => ?_⟩
  obtain ⟨t', hlast, -⟩ | ⟨-, hsame⟩ := hfile
  · rw [lastSave_eq_none hq] at hlast
    contradiction
  · exact hsame

/-- A vault is created, and then the disk fills up: the file stays the one of the new vault, and
neither a save nor another password does any damage. -/
theorem undamaged_fullDisk :
    let start := start ⟨false, ["vault"]⟩ cheapParams blankWorld
    let created := start.run [.create "open sesame"]
    let t := created.step (.disturb { created.world.disk with isFull := true })
    HoldsImage t.world.disk ⟨false, ["vault"]⟩ created ∧
      (∃ e, (t.session.save t.world).result = .error (.file e)) ∧
      t.RolledBack (t.session.save t.world) ∧
      (∃ e, (t.session.changePassword "sesame" t.world).result = .error (.file e)) ∧
      t.RolledBack (t.session.changePassword "sesame" t.world) := by
  intro start created t
  obtain ⟨k, hsession⟩ : ∃ k, created.session =
    ⟨⟨false, ["vault"]⟩, cheapParams, some .empty, some k, some 0⟩ := session_create
  have hready : start.IsReady := isReady_start isFull_blankWorld isValid_blankWorld
    Disk.isTree_empty isAccepted_cheapParams
  have htree : created.world.disk.IsTree := (hready.create "open sesame").tree
  let deeds : List Deed :=
    [.create "open sesame", .disturb { created.world.disk with isFull := true }]
  have hproper : ∀ d ∈ deeds, d.IsProper :=
    List.forall_mem_cons.mpr ⟨trivial, List.forall_mem_singleton.mpr htree⟩
  have hall : start.AllowsAll deeds := ⟨trivial, Disk.read_filled _ _ _, trivial⟩
  have hleaves : start.LeavesAll ⟨false, ["vault"]⟩ deeds := by
    refine ⟨trivial, ?_, trivial⟩
    exact congrArg Except.toOption (Disk.read_filled _ _ _)
  obtain ⟨hfiles, hsave, hchange, -⟩ := undamaged isFull_blankWorld isValid_blankWorld
    Disk.isTree_empty isAccepted_cheapParams hproper hall
  have hdurable : t.IsDurable :=
    (isDurable_start isFull_blankWorld isValid_blankWorld isAccepted_cheapParams).run hall
  have hopen : t.session.isOpen = true := by
    show created.session.isOpen = true
    rw [hsession]
    rfl
  have hvault : created.session.vault ≠ none := by
    rw [hsession]
    exact nofun
  obtain ⟨⟨e, he⟩, f, hf⟩ := hdurable.fails_of_isFull htree hopen rfl "sesame"
  refine ⟨?_, ⟨e, he⟩, hsave e he, ⟨f, hf⟩, hchange "sesame" f hf⟩
  have hsaves : start.saves (.create "open sesame") = true := hready.saves_create rfl hvault
  have hlast : lastSave ⟨false, ["vault"]⟩ start deeds = some created := by
    have hidle : lastSave ⟨false, ["vault"]⟩ created
        [.disturb { created.world.disk with isFull := true }] = none := by
      simp [lastSave, saves]
    rw [lastSave]
    change (lastSave _ created _).or _ = some created
    rw [hidle, Option.none_or, if_pos ⟨hsaves, rfl⟩]
    rfl
  obtain ⟨⟨t', hlast', himage⟩ | ⟨hnone, -⟩, -⟩ := hfiles ⟨false, ["vault"]⟩ hleaves
  · cases hlast.symm.trans hlast'
    exact himage
  · cases hlast.symm.trans hnone

end State

end Session

end Coffer
