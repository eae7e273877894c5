import Coffer.Proofs.Session.Readback

/-!
What is left of a session when its password could not be changed. The key is taken away first, then
another one is derived under the session's parameters, and then the file is written. If the disk
refuses the file, the key is put back and nothing has happened. It is not put back if no key can be
derived, because the parameters are not valid or the new password is no text, nor if no header can be
made for the new key, because the parameters do not fit into it: the session is then without a key,
or with one that nothing can be saved under (`Unkeyed`), although the vault is there still and the
file is as it was.

Main statement: this happens exactly if the session's parameters are not valid or do not fit into a
header, or the password is no text (`changePassword_unkeys`). A session may well be open with such
parameters, since a file is opened with those in its header (`session_handedOver`).
-/

namespace Coffer

/-- A file is to blame. -/
def SessionError.IsFile : SessionError → Prop
  | .file _ => True
  | _ => False

namespace Session

variable {s s' : Session} {w : World} {v : Vault} {k : SessionKey} {e : SessionError}
  {password : Password}

/-- What an error that no file is to blame for leaves of an open session that was given a new
password: no key, or a new one that does not fit into a header. All else is the same. -/
inductive Unkeyed (password : Password) (s : Session) : SessionError → Session → Prop where
  | underived (e : KeyError) : Unkeyed password s (.key e) { s with key := none }
  | unfit {salt key : Bytes} : Key.derive password salt s.params = .ok key →
      ¬ s.params.FitsHeader →
      Unkeyed password s (.encode .headerOverflow) { s with key := some ⟨key, salt, s.params⟩ }

/-- Nothing is saved under a key that does not fit into a header. -/
theorem save_of_unfit (hv : s.vault = some v) (hkey : s.key = some k)
    (hk : ¬ k.params.FitsHeader) (w : World) :
    s.save w = ⟨.error (.encode .headerOverflow), s, w⟩ := by
  have hheader : Envelope.header k.params k.salt = none :=
    Option.eq_none_iff_forall_not_mem.mpr fun _ h => hk (Envelope.fitsHeader_of_header h)
  unfold save
  simp only [hv, hkey, hheader]

theorem Unkeyed.not_isFile (h : Unkeyed password s e s') : ¬ e.IsFile := by
  cases h <;> exact id

theorem Unkeyed.save (h : Unkeyed password s e s') (hv : s.vault = some v) (w : World) :
    ∃ e', s'.save w = ⟨.error e', s', w⟩ ∧ ¬ e'.IsFile := by
  cases h with
  | underived => exact ⟨.notUnlocked, save_of_keyless rfl w, id⟩
  | @unfit salt key _ hfits =>
    exact ⟨.encode .headerOverflow,
      save_of_unfit (s := { s with key := some ⟨key, salt, s.params⟩ }) hv rfl hfits w, id⟩

/-- With parameters that are valid and fit into a header, the password is changed to any text, or
everything stays as it was; otherwise the key is lost. -/
theorem changePassword_ends (hv : s.vault = some v) (hopen : s.isOpen = true)
    (hw : w.random.IsFull) (password : Password) :
    ((s.params.fault? = none ∧ s.params.FitsHeader ∧ ∃ text : String, password = text) ∧
      ((s.changePassword password w).result = .ok () ∨
        ∃ f w', s.changePassword password w = ⟨.error (.file f), s, w'⟩)) ∨
    (¬ (s.params.fault? = none ∧ s.params.FitsHeader ∧ ∃ text : String, password = text) ∧
      ∃ e s' w', s.changePassword password w = ⟨.error e, s', w'⟩ ∧ Unkeyed password s e s' ∧
        w'.disk = w.disk) := by
  have hsalt := isSalt_draw hw
  unfold changePassword
  simp only [hopen, Bool.not_true, Bool.false_eq_true, if_false]
  obtain ⟨key, hderive, hrekey⟩ | ⟨f, hderive, hrekey⟩ :=
      rekey_cases password { s with key := none } w <;> rw [hrekey]
  · have hfault : s.params.fault? = none := Key.fault?_of_derive hderive
    dsimp only
    generalize hrekeyed : { s with key := some ⟨key, (w.random.draw saltSize).1, s.params⟩ } = s₁
    have hv₁ : s₁.vault = some v := hrekeyed ▸ hv
    have hkey₁ : s₁.key = some ⟨key, (w.random.draw saltSize).1, s.params⟩ := hrekeyed ▸ rfl
    by_cases hfits : s.params.FitsHeader
    · -- Under the new key only the disk can fail, and then the old key is put back.
      refine .inl ⟨⟨hfault, hfits, Key.exists_text_of_derive hderive⟩, ?_⟩
      obtain ⟨nonce, random, -, -, hsave⟩ := save_eq_of_serves
        (w := { w with random := (w.random.draw saltSize).2 }) hv₁ hkey₁
        ⟨Key.length_of_derive hderive, hfits, hsalt⟩ hw
      rw [hsave]
      generalize Disk.store _ s₁.path _ = stored
      obtain ⟨f | u, disk⟩ := stored
      · rw [← hrekeyed]
        exact .inr ⟨_, _, rfl⟩
      · exact .inl rfl
    · rw [save_of_unfit hv₁ hkey₁ hfits, ← hrekeyed]
      exact .inr ⟨fun h => hfits h.2.1, _, _, _, rfl, .unfit hderive hfits, rfl⟩
  · refine .inr ⟨?_, _, _, _, rfl, .underived f, rfl⟩
    rintro ⟨hfault, hfits, text, rfl⟩
    obtain ⟨key, hkey⟩ := Key.exists_derive_of_fits hfault hfits hsalt.1 text
    cases hderive.symm.trans hkey

/-- **An error that no file is to blame for costs the session its key.** In an open session, changing
the password ends in such an error exactly if the session's parameters are not valid or do not fit
into a header, or the new password is no text. The session then has no key, or one that does not
fit into a header, so that it can never be saved again, while its vault and the disk are the same.
Any other error leaves the session exactly as it was. -/
theorem changePassword_unkeys (hopen : s.isOpen = true) (hw : w.random.IsFull)
    (password : Password) :
    let o := s.changePassword password w
    ((∃ e, o.result = .error e ∧ ¬ e.IsFile) ↔
      ¬ (s.params.fault? = none ∧ s.params.FitsHeader ∧ ∃ text : String, password = text)) ∧
    (∀ e, o.result = .error e → ¬ e.IsFile →
      Unkeyed password s e o.session ∧ o.world.disk = w.disk ∧
      ∀ w', ∃ e', o.session.save w' = ⟨.error e', o.session, w'⟩ ∧ ¬ e'.IsFile) ∧
    ∀ e, o.result = .error e → e.IsFile → o.session = s := by
  intro o
  obtain ⟨v, hv⟩ := exists_vault hopen
  have ho : o = s.changePassword password w := rfl
  obtain ⟨hparams, hok | ⟨f, w', heq⟩⟩ | ⟨hparams, e, s', w', heq, hunkeyed, hdisk⟩ :=
    changePassword_ends hv hopen hw password
  · rw [← ho] at hok
    rw [hok]
    exact ⟨⟨nofun, fun h => absurd hparams h⟩, nofun, nofun⟩
  · rw [ho, heq]
    refine ⟨⟨?_, fun h => absurd hparams h⟩, ?_, fun _ _ _ => rfl⟩
    · rintro ⟨_, ⟨⟩, hfile⟩
      exact absurd trivial hfile
    · rintro _ ⟨⟩ hfile
      exact absurd trivial hfile
  · rw [ho, heq]
    refine ⟨⟨fun _ => hparams, fun _ => ⟨e, rfl, hunkeyed.not_isFile⟩⟩, ?_, ?_⟩
    · rintro _ ⟨⟩ _
      exact ⟨hunkeyed, hdisk, hunkeyed.save hv⟩
    · rintro _ ⟨⟩ hfile
      exact absurd hfile hunkeyed.not_isFile

/-! ### A vault in other hands -/

/-- A vault is created, and then opened by another session, which has parameters of its own. -/
def handedOver (path : Path) (params params' : KeyParams) (password : String) (w : World) : State :=
  (State.start path params w).run [.create password, .renew path params', .unlock password]

/-- The session is open under its own parameters, whatever they are. -/
theorem session_handedOver {path : Path} {params : KeyParams} (hparams : params.IsAccepted)
    (hw : w.random.IsFull) (hfree : w.disk.isPresent path = false) (htakes : w.disk.Takes path)
    (params' : KeyParams) (password : String) :
    ∃ v k, (handedOver path params params' password w).session =
      ⟨path, params', some v, some k, some v.revision⟩ := by
  obtain ⟨k, bytes, random, -, hopens, -, hcreate⟩ :=
    create_eq (s := .new path params) hparams hw password hfree
  obtain ⟨d, hstore⟩ := htakes bytes
  have hrun : (handedOver path params params' password w).session =
    ((Session.new path params').unlock password
      ((Session.new path params).create password w).world).session := rfl
  rw [hrun, hcreate, show w.disk.store (Session.new path params).path bytes = _ from hstore]
  dsimp only
  generalize hw' : World.note _ (.vaultCreated _) = w'
  have hread : w'.disk.read (Session.new path params').path = .ok bytes := by
    rw [← hw']
    exact Disk.read_store hstore
  obtain ⟨e, key, contents, v, hdecode, hlegacy, hopen, hpayload, -⟩ := hopens
  obtain ⟨w'', hunlock⟩ := unlock_current hread hdecode hlegacy hopen (hpayload w'.now)
  rw [hunlock]
  exact ⟨v, _, rfl⟩

theorem isFull_handedOver {path : Path} {params params' : KeyParams} (hparams : params.FitsHeader)
    (hparams' : params'.FitsHeader) (hw : w.random.IsFull) (password : String) :
    (handedOver path params params' password w).world.random.IsFull := by
  have hdeeds : ∀ d ∈ [.create password, .renew path params', .unlock password],
      Deed.FitsHeader d := by
    simp [Deed.FitsHeader, hparams']
  exact (State.canSeal_run (State.canSeal_start hw hparams) hdeeds).full

/-- With parameters that are not valid, the key is lost, and the vault cannot be saved any more. -/
theorem changePassword_of_fault (hopen : s.isOpen = true) {f : KeyError}
    (hfault : s.params.fault? = some f) (password : String) (w : World) :
    let o := s.changePassword password w
    o.result = .error (.key f) ∧ o.session.vault = s.vault ∧ o.session.key = none ∧
      o.session.isOpen = false ∧ (o.session.save o.world).result = .error .notUnlocked := by
  have hderive : ∀ salt, Key.derive password salt s.params = .error f := by
    intro salt
    have hvalid : s.params.validate = .error f := by rw [KeyParams.validate, hfault]
    rw [Key.derive, hvalid]
    rfl
  obtain ⟨w', heq⟩ : ∃ w', s.changePassword password w =
      ⟨.error (.key f), { s with key := none }, w'⟩ := by
    unfold changePassword rekey
    simp only [hopen, Bool.not_true, Bool.false_eq_true, if_false, hderive]
    exact ⟨_, rfl⟩
  rw [heq]
  refine ⟨rfl, rfl, rfl, ?_, ?_⟩
  · rw [isOpen, Bool.and_eq_false_iff]
    exact .inr rfl
  · rw [save_of_keyless rfl]

/-- No iterations at all. -/
def idleParams : KeyParams :=
  ⟨KeyParams.argon2id, 0, 8, 1⟩

/-- A vault that was created under cheap parameters, in a session with those. -/
def idle : State :=
  handedOver ⟨false, ["v.rgv"]⟩ State.cheapParams idleParams "password1" State.blankWorld

theorem isOpen_idle : idle.session.isOpen = true ∧
    idle.session.params.fault? = some .noIterations := by
  obtain ⟨v, k, hsession⟩ : ∃ v k, idle.session = _ :=
    session_handedOver State.isAccepted_cheapParams State.isFull_blankWorld rfl
      (fun _ => ⟨_, rfl⟩) idleParams "password1"
  rw [hsession]
  exact ⟨rfl, (by decide : idleParams.fault? = some .noIterations)⟩

theorem isFull_idle : idle.world.random.IsFull :=
  isFull_handedOver State.isAccepted_cheapParams.fitsHeader
    ⟨by decide, by decide, by decide, by decide⟩ State.isFull_blankWorld "password1"

theorem changePassword_unkeys_idle :
    let o := idle.session.changePassword "password2" idle.world
    idle.session.isOpen = true ∧ idle.world.random.IsFull ∧
      ¬ (idle.session.params.fault? = none ∧ idle.session.params.FitsHeader) ∧
      ∃ e, o.result = .error e ∧ ¬ e.IsFile ∧ Unkeyed "password2" idle.session e o.session ∧
        o.world.disk = idle.world.disk := by
  -- How the session came about does not matter.
  have hloses : ∀ {s : Session} {w : World}, s.isOpen = true →
      s.params.fault? = some .noIterations → w.random.IsFull →
      ¬ (s.params.fault? = none ∧ s.params.FitsHeader) ∧
      ∃ e, (s.changePassword "password2" w).result = .error e ∧ ¬ e.IsFile ∧
        Unkeyed "password2" s e (s.changePassword "password2" w).session ∧
        (s.changePassword "password2" w).world.disk = w.disk := by
    intro s w hopen hfault hfull
    have hparams : ¬ (s.params.fault? = none ∧ s.params.FitsHeader) := by simp [hfault]
    obtain ⟨hiff, hunkeys, -⟩ := changePassword_unkeys hopen hfull "password2"
    obtain ⟨e, he, hfile⟩ := hiff.mpr fun h => hparams ⟨h.1, h.2.1⟩
    obtain ⟨hunkeyed, hdisk, -⟩ := hunkeys e he hfile
    exact ⟨hparams, e, he, hfile, hunkeyed, hdisk⟩
  obtain ⟨hopen, hfault⟩ := isOpen_idle
  exact ⟨hopen, isFull_idle, hloses hopen hfault isFull_idle⟩

/-- An open session loses its key to an error that no file is to blame for: it is not open any more,
and its vault, which is there still, cannot be saved. -/
theorem changePassword_loses_key :
    let o := idle.session.changePassword "password2" idle.world
    idle.session.isOpen = true ∧ o.result = .error (.key .noIterations) ∧
      ¬ (SessionError.key .noIterations).IsFile ∧ o.session.vault = idle.session.vault ∧
      o.session.key = none ∧ o.session.isOpen = false ∧
      (o.session.save o.world).result = .error .notUnlocked := by
  obtain ⟨hopen, hfault⟩ := isOpen_idle
  obtain ⟨hresult, hlost⟩ := changePassword_of_fault hopen hfault "password2" idle.world
  exact ⟨hopen, hresult, id, hlost⟩

end Session

end Coffer
