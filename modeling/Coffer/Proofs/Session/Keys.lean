import Coffer.Proofs.Session.Readback

/-!
Whose key a session has, and what its file is sealed under. A file that a step stores is sealed
under the key that the session has after it (`Writes.file`). Saving and carrying out commands bring
no new key (`Retains`). A session comes by one in three ways only: it is created or given a new
password, and then the file is sealed under the key of that password and a new salt
(`create_rekeys`, `changePassword_rekeys`), or it is opened with the password that opens its file
(`unlock_unlocks`).
-/

namespace Coffer

/-- The key is the one of a password, under the salt and the parameters that are kept with it. -/
def SessionKey.ComesFrom (k : SessionKey) (password : Password) : Prop :=
  Key.derive password k.salt k.params = .ok k.bytes

theorem Sealed.calls_encrypt {random random' : RandomSource} {key text : Bytes}
    {data : Option Bytes} {x : Bytes × Bytes}
    (h : encrypt random key text data = .ok (x, random')) : random.calls ≤ random'.calls := by
  unfold encrypt at h
  split at h
  · cases h
  · cases h
    exact Nat.le_succ _

namespace Session

variable {s s' : Session} {w w' : World} {k : SessionKey} {bytes : Bytes} {password : Password}

/-- The bytes are a file that starts with the header for a key, and all else in it is sealed under
the key. -/
def SealedUnder (k : SessionKey) (bytes : Bytes) : Prop :=
  ∃ header nonce contents, Envelope.header k.params k.salt = some header ∧
    Envelope.encode {
      salt := k.salt
      nonce
      ciphertext := Gcm.encrypt k.bytes nonce header contents
      params := k.params } = .ok bytes

theorem exists_key_of_image (h : s.image w = some bytes) :
    ∃ k, s.key = some k ∧ SealedUnder k bytes := by
  unfold image at h
  obtain ⟨v, -, h⟩ := Option.bind_eq_some_iff.mp h
  obtain ⟨k, hkey, h⟩ := Option.bind_eq_some_iff.mp h
  obtain ⟨header, hheader, h⟩ := Option.bind_eq_some_iff.mp h
  exact ⟨k, hkey, header, _, v.payload, hheader, eq_ok_of_toOption h⟩

theorem SealedUnder.eq_append (h : SealedUnder k bytes) (hsalt : Key.IsSalt k.salt) :
    ∃ rest, bytes = Envelope.headerStart k.params k.salt.length ++ (k.salt ++ rest) := by
  obtain ⟨header, nonce, contents, hheader, hencode⟩ := h
  obtain ⟨start, hstart, rfl⟩ := Envelope.eq_of_encode hencode
  have heq := Envelope.header_eq (Envelope.fitsHeader_of_header hheader) hsalt
  cases heq.symm.trans hstart
  exact ⟨_, List.append_assoc ..⟩

theorem SealedUnder.salt_eq {k' : SessionKey} (h : SealedUnder k bytes) (h' : SealedUnder k' bytes)
    (hsalt : Key.IsSalt k.salt) (hsalt' : Key.IsSalt k'.salt) : k.salt = k'.salt := by
  obtain ⟨rest, hbytes⟩ := h.eq_append hsalt
  obtain ⟨rest', hbytes'⟩ := h'.eq_append hsalt'
  have hlength : k.salt.length = k'.salt.length := by
    rw [← Envelope.number_saltSize hsalt k.params (k.salt ++ rest), ← hbytes, hbytes',
      Envelope.number_saltSize hsalt']
  rw [hbytes] at hbytes'
  obtain ⟨-, hrest⟩ := List.append_inj hbytes' rfl
  exact (List.append_inj hrest hlength).1

theorem comesFrom_of_verify (h : s.verify password = .ok true) :
    ∃ k, s.key = some k ∧ k.ComesFrom password := by
  unfold verify at h
  split at h
  · next k _ hkey =>
    split at h
    · next key hderive =>
      obtain rfl : key = k.bytes := eq_of_beq (Except.ok.inj h)
      exact ⟨k, hkey, hderive⟩
    · contradiction
  · contradiction

theorem verify_of_comesFrom {v : Vault} (hv : s.vault = some v) (hkey : s.key = some k)
    (hk : k.ComesFrom password) : s.verify password = .ok true := by
  have hderive : Key.derive password k.salt k.params = .ok k.bytes := hk
  simp only [verify, hv, hkey, hderive, beq_self_eq_true]

/-! ### Files -/

theorem Writes.tree {saved : Bool} (h : Writes s w s' w' saved) (htree : w.disk.IsTree) :
    w'.disk.IsTree := by
  have hstore := htree.store s.path
  cases h with
  | @stored bytes _ _ store =>
    have hkeep := hstore bytes
    rwa [store] at hkeep
  | kept _ disk => rwa [disk]
  | refused _ disk =>
    obtain ⟨contents, e, hrefused⟩ := disk
    have hkeep := hstore contents
    rwa [hrefused] at hkeep

/-- A file that is stored is sealed under the key after the step, and if none is stored, the file is
as it was. -/
theorem Writes.file {saved : Bool} (h : Writes s w s' w' saved) (htree : w.disk.IsTree) :
    saved = false ∧ w'.disk.file? s.path = w.disk.file? s.path ∨
    saved = true ∧ ∃ k bytes, s'.key = some k ∧ w'.disk.file? s.path = some bytes ∧
      SealedUnder k bytes := by
  cases h with
  | @stored bytes path image store =>
    obtain ⟨k, hkey, hsealed⟩ := exists_key_of_image image
    have hfile : w'.disk.file? s.path = some bytes := by
      rw [Disk.file?, Disk.read_store store]
      rfl
    exact .inr ⟨rfl, k, bytes, hkey, hfile, hsealed⟩
  | kept path disk => exact .inl ⟨rfl, by rw [disk]⟩
  | refused path disk => exact .inl ⟨rfl, disk.file? htree s.path⟩

/-! ### Steps with the key that there is -/

/-- A step that brings no new key: the file stays as it is, or is sealed under the session's key. -/
structure Retains (s : Session) (w : World) (s' : Session) (w' : World) : Prop where
  path : s'.path = s.path
  tree : w'.disk.IsTree
  key : s'.key = s.key
  file : w'.disk.file? s.path = w.disk.file? s.path ∨
    ∃ k bytes, s.key = some k ∧ w'.disk.file? s.path = some bytes ∧ SealedUnder k bytes

theorem Writes.retains {saved : Bool} (h : Writes s w s' w' saved) (htree : w.disk.IsTree)
    (hkey : s'.key = s.key) : Retains s w s' w' := by
  refine ⟨h.path_eq, h.tree htree, hkey, ?_⟩
  obtain ⟨-, hfile⟩ | ⟨-, k, bytes, hk, hfile, hsealed⟩ := h.file htree
  · exact .inl hfile
  · exact .inr ⟨k, bytes, hkey ▸ hk, hfile, hsealed⟩

theorem Retains.refl (htree : w.disk.IsTree) : Retains s w s w :=
  ⟨rfl, htree, rfl, .inl rfl⟩

theorem Retains.note (h : Retains s w s' w') (e : Event) : Retains s w s' (w'.note e) :=
  ⟨h.path, h.tree, h.key, h.file⟩

theorem retains_save (htree : w.disk.IsTree) :
    Retains s w (s.save w).session (s.save w).world :=
  (save_writes s w).retains htree (key_save s w)

theorem key_commit (c : Command) (r : CommandResult) (v : Vault) (s : Session) (w : World) :
    (s.commit c r v w).session.key = s.key := by
  have hsave := key_save { s with vault := some v } w
  unfold commit
  generalize Session.save _ w = saved at hsave
  obtain ⟨e | u, s₁, w₁⟩ := saved <;> exact hsave

theorem key_execute (current : Path) (c : Command) (s : Session) (w : World) :
    (s.execute current c w).session.key = s.key := by
  cases hv : s.vault with
  | none => rw [execute_of_locked hv]
  | some v =>
    obtain hspares | ⟨call, r, w₁, -, -, heq, -, -⟩ := execute_cases hv current c w
    · rw [hspares.session]
    · rw [heq, key_commit]

theorem retains_execute (htree : w.disk.IsTree) (current : Path) (c : Command) :
    Retains s w (s.execute current c w).session (s.execute current c w).world :=
  (execute_writes current c s w).retains htree (key_execute current c s w)

theorem retains_runLine (htree : w.disk.IsTree) (current : Path) (line : String) :
    Retains s w (s.runLine current line w).session (s.runLine current line w).world := by
  unfold runLine
  split
  · exact .refl htree
  · next c _ =>
    have hexecute := retains_execute (s := s) htree current c
    generalize s.execute current c w = o at hexecute
    obtain ⟨e | r, s', w'⟩ := o <;> exact hexecute

/-! ### Steps with a new key -/

/-- The file is sealed under a new key: that of a password and of a salt that has been drawn. -/
structure Rekeys (password : Password) (s : Session) (w : World) (s' : Session) (w' : World) :
    Prop where
  path : s'.path = s.path
  tree : w'.disk.IsTree
  drawn : w.random.calls < w'.random.calls
  key : ∃ k bytes, s'.key = some k ∧ k.ComesFrom password ∧ k.params = s.params ∧
    k.salt = (w.random.draw saltSize).1 ∧ w'.disk.file? s.path = some bytes ∧ SealedUnder k bytes

theorem Rekeys.not_sealedUnder (h : Rekeys password s w s' w') (hw : w.random.IsFull)
    (hsalt : Key.IsSalt k.salt) (hne : (w.random.draw saltSize).1 ≠ k.salt)
    (hfile : w'.disk.file? s'.path = some bytes) : ¬ SealedUnder k bytes := by
  intro hsealed
  obtain ⟨k', bytes', -, -, -, hdrawn, hfile', hsealed'⟩ := h.key
  rw [← h.path] at hfile'
  cases hfile.symm.trans hfile'
  have hsalt' : Key.IsSalt k'.salt := hdrawn ▸ isSalt_draw hw
  exact hne (hdrawn.symm.trans (hsealed'.salt_eq hsealed hsalt' hsalt))

def HasNewKey (password : Password) (s : Session) (w : World) (s' : Session) (w' : World) : Prop :=
  ∃ k, s'.key = some k ∧ k.ComesFrom password ∧ k.params = s.params ∧
    k.salt = (w.random.draw saltSize).1 ∧ w.random.calls < w'.random.calls

theorem Writes.rekeys (h : Writes s w s' w' true) (htree : w.disk.IsTree)
    (hnew : HasNewKey password s w s' w') : Rekeys password s w s' w' := by
  obtain ⟨k, hkey, hpassword, hparams, hsalt, hdrawn⟩ := hnew
  refine ⟨h.path_eq, h.tree htree, hdrawn, ?_⟩
  obtain ⟨hfalse, -⟩ | ⟨-, k', bytes, hk', hfile, hsealed⟩ := h.file htree
  · contradiction
  · cases hkey.symm.trans hk'
    exact ⟨k, bytes, hkey, hpassword, hparams, hsalt, hfile, hsealed⟩

theorem hasNewKey_rekey (password : Password) (s : Session) (w : World)
    (h : (s.rekey password w).result = .ok ()) :
    HasNewKey password s w (s.rekey password w).session (s.rekey password w).world := by
  obtain ⟨bytes, hderive, heq⟩ | ⟨e, -, heq⟩ := rekey_cases password s w
  · rw [heq]
    exact ⟨_, rfl, hderive, rfl, rfl, Nat.lt_succ_self _⟩
  · rw [heq] at h
    cases h

theorem calls_save (s : Session) (w : World) :
    w.random.calls ≤ (s.save w).world.random.calls := by
  unfold save
  split
  · split
    · exact Nat.le_refl _
    · split
      · exact Nat.le_refl _
      · next hencrypt =>
        have hdrawn := Sealed.calls_encrypt hencrypt
        dsimp only
        split
        · exact hdrawn
        · split <;> exact hdrawn
  · exact Nat.le_refl _

theorem HasNewKey.save (h : HasNewKey password s w s' w') (s'' : Session)
    (hkey : s''.key = s'.key) :
    HasNewKey password s w (s''.save w').session (s''.save w').world := by
  obtain ⟨k, hk, hpassword, hparams, hsalt, hdrawn⟩ := h
  exact ⟨k, (key_save s'' w').trans (hkey.trans hk), hpassword, hparams, hsalt,
    Nat.lt_of_lt_of_le hdrawn (calls_save s'' w')⟩

theorem create_rekeys (htree : w.disk.IsTree) (h : (s.create password w).result = .ok ()) :
    Rekeys password s w (s.create password w).session (s.create password w).world := by
  have hwrites := create_writes password s w
  rw [h] at hwrites
  obtain ⟨s₁, w₁, e, hrekey, hsession, hworld⟩ := create_of_ok h
  have hnew := hasNewKey_rekey password s w (by rw [hrekey])
  rw [hrekey] at hnew
  refine hwrites.rekeys htree ?_
  rw [hsession, hworld]
  exact hnew.save { s₁ with vault := some .empty } rfl

theorem changePassword_of_ok (h : (s.changePassword password w).result = .ok ()) :
    ∃ s₁ w₁ e, { s with key := none }.rekey password w = ⟨.ok (), s₁, w₁⟩ ∧
      (s.changePassword password w).session = (s₁.save w₁).session ∧
      (s.changePassword password w).world = (s₁.save w₁).world.note e := by
  unfold changePassword at h ⊢
  split at h
  · cases h
  next hopen =>
  rw [if_neg hopen]
  dsimp only at h ⊢
  generalize Session.rekey password _ w = rekeyed at h
  obtain ⟨e | u, s₁, w₁⟩ := rekeyed
  · cases h
  · refine ⟨s₁, w₁, .passwordChanged (s₁.save w₁).session.path.text, rfl, ?_⟩
    dsimp only at h ⊢
    generalize s₁.save w₁ = saved at h
    obtain ⟨e | u, s₂, w₂⟩ := saved
    · cases e <;> cases h
    · exact ⟨rfl, rfl⟩

theorem changePassword_rekeys (htree : w.disk.IsTree)
    (h : (s.changePassword password w).result = .ok ()) :
    Rekeys password s w (s.changePassword password w).session
      (s.changePassword password w).world := by
  have hwrites := changePassword_writes password s w
  rw [h] at hwrites
  obtain ⟨s₁, w₁, e, hrekey, hsession, hworld⟩ := changePassword_of_ok h
  have hnew := hasNewKey_rekey password { s with key := none } w (by rw [hrekey])
  rw [hrekey] at hnew
  refine hwrites.rekeys htree ?_
  rw [hsession, hworld]
  exact hnew.save s₁ rfl

theorem key_changePassword {e : FileError}
    (h : (s.changePassword password w).result = .error (.file e)) :
    (s.changePassword password w).session.key = s.key := by
  unfold changePassword at h ⊢
  split at h
  · cases h
  next hopen =>
  rw [if_neg hopen]
  dsimp only at h ⊢
  generalize Session.rekey password _ w = rekeyed at h
  obtain ⟨f | u, s₁, w₁⟩ := rekeyed
  · cases h
  · dsimp only at h ⊢
    generalize s₁.save w₁ = saved at h
    obtain ⟨f | u, s₂, w₂⟩ := saved
    · cases f with
      | file f => rfl
      | _ => cases h
    · cases h

/-! ### Opening -/

/-- What the bytes hold can be opened with a password. -/
def IsOpenedBy (password : Password) (bytes : Bytes) : Prop :=
  ∃ e opened, Envelope.decode bytes = .ok e ∧ openEnvelope password e = .ok opened

/-- What opening a session can come to. The file stays as it is. -/
inductive Unlocks (password : Password) (s : Session) (w : World) : Outcome SessionError Unit → Prop
  where
  /-- The session has a key of the password, which opens the file. -/
  | opened {bytes : Bytes} {k : SessionKey} {s' : Session} {w' : World} (path : s'.path = s.path)
      (disk : w'.disk = w.disk) (key : s'.key = some k) (derived : k.ComesFrom password)
      (file : w.disk.file? s.path = some bytes) (opens : IsOpenedBy password bytes) :
      Unlocks password s w ⟨.ok (), s', w'⟩
  /-- The session is as it was. -/
  | refused {e : SessionError} {w' : World} (disk : w'.disk = w.disk) :
      Unlocks password s w ⟨.error e, s, w'⟩
  /-- There is no key to save the contents of a file without a header under. -/
  | underived {e : KeyError} {s' : Session} {w' : World} (path : s'.path = s.path)
      (disk : w'.disk = w.disk) : Unlocks password s w ⟨.error (.key e), s', w'⟩

theorem comesFrom_of_openEnvelope {e : Envelope} {key contents : Bytes}
    (h : openEnvelope password e = .ok (key, contents)) :
    SessionKey.ComesFrom ⟨key, e.salt, e.params⟩ password :=
  derive_of_openEnvelope h

theorem unlock_unlocks (password : Password) (s : Session) (w : World) :
    Unlocks password s w (s.unlock password w) := by
  unfold unlock
  obtain ⟨e, hload, -⟩ | ⟨bytes, envelope, hread, hdecode, hload⟩ := load_cases s w
  · rw [hload]
    exact .refused rfl
  rw [hload]
  dsimp only
  have hfile : w.disk.file? s.path = some bytes := by
    rw [Disk.file?, hread]
    rfl
  split
  · exact .refused rfl
  · exact .refused rfl
  next key contents hopen =>
  have hopens : IsOpenedBy password bytes := ⟨envelope, _, hdecode, hopen⟩
  split
  · exact .refused rfl
  · split
    · -- The vault is given a new key, for the same password.
      obtain ⟨fresh, hderive, hrekey⟩ | ⟨e, -, hrekey⟩ := rekey_cases password s
        (w.note (.fileLoaded envelope.version bytes.length)) <;> rw [hrekey]
      · exact .opened rfl rfl rfl hderive hfile hopens
      · exact .underived rfl rfl
    · exact .opened rfl rfl rfl (comesFrom_of_openEnvelope hopen) hfile hopens

end Session

end Coffer
