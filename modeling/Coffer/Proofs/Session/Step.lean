import Coffer.Execute
import Coffer.Proofs.Disk
import Coffer.Proofs.Envelope
import Coffer.Proofs.Vault.Payload

/-!
What the steps of a session can do, one lemma each. A step that seals works with a key that serves
(`SessionKey.Serves`) and a source of random bytes that yields as many as it is asked for. Then
sealing itself cannot fail, and all that is left to go wrong is the disk (`save_eq_of_serves`). If
the key belongs to the session's password besides (`SessionKey.IsOf`), `save` either stores a file
that is sealed under the key and holds the vault (`Session.SealedAt`), so that it opens under the
password (`Session.Holds`), or the disk refuses it (`save_cases`), and every other step is put
together from that.
-/

namespace Coffer

/-! ### Surroundings -/

/-- The surroundings after a step: the time and the source of random bytes are the same, and a disk
that is a tree still is one. -/
structure World.Continues (w w' : World) : Prop where
  bytes : w'.random.bytes = w.random.bytes
  now : w'.now = w.now
  tree : w.disk.IsTree → w'.disk.IsTree

namespace World.Continues

variable {w w' w'' : World}

theorem refl (w : World) : w.Continues w :=
  ⟨rfl, rfl, id⟩

theorem trans (h : w.Continues w') (h' : w'.Continues w'') : w.Continues w'' :=
  ⟨h'.bytes.trans h.bytes, h'.now.trans h.now, h'.tree ∘ h.tree⟩

theorem note (h : w.Continues w') (e : Event) : w.Continues (w'.note e) :=
  ⟨h.bytes, h.now, h.tree⟩

theorem ids (w : World) (ids : IdSource) : w.Continues { w with ids } :=
  ⟨rfl, rfl, id⟩

theorem random (w : World) {random : RandomSource} (h : random.bytes = w.random.bytes) :
    w.Continues { w with random } :=
  ⟨h, rfl, id⟩

theorem store (w : World) {random : RandomSource} (h : random.bytes = w.random.bytes)
    {p : Path} {contents : Bytes} {result : Except DiskError Unit} {disk : Disk}
    (hstore : w.disk.store p contents = (result, disk)) :
    w.Continues { w with random, disk } := by
  refine ⟨h, rfl, fun htree => ?_⟩
  have hkeep := htree.store p contents
  rw [hstore] at hkeep
  exact hkeep

theorem isFull (h : w.Continues w') (hw : w.random.IsFull) : w'.random.IsFull := by
  intro n size
  rw [h.bytes]
  exact hw n size

end World.Continues

/-- Files can be sealed under the key. -/
structure SessionKey.Serves (k : SessionKey) : Prop where
  length : k.bytes.length = Sealed.keySize
  params : k.params.FitsHeader
  salt : Key.IsSalt k.salt

/-- Files can be sealed under the key, and their headers are accepted. -/
structure SessionKey.IsFit (k : SessionKey) : Prop where
  length : k.bytes.length = Sealed.keySize
  params : k.params.IsAccepted
  salt : Key.IsSalt k.salt

theorem SessionKey.IsFit.serves {k : SessionKey} (h : k.IsFit) : k.Serves :=
  ⟨h.length, h.params.fitsHeader, h.salt⟩

/-- A key that belongs to a password, and with which files can be written. -/
structure SessionKey.IsOf (password : Password) (k : SessionKey) : Prop where
  params : k.params.IsAccepted
  salt : Key.IsSalt k.salt
  derived : Key.derive password k.salt k.params = .ok k.bytes

theorem SessionKey.IsOf.isFit {password : Password} {k : SessionKey} (h : k.IsOf password) :
    k.IsFit :=
  ⟨Key.length_of_derive h.derived, h.params, h.salt⟩

theorem SessionKey.length_erased (k : SessionKey) : k.erased.bytes.length = k.bytes.length :=
  List.length_map ..

def SessionKey.header (k : SessionKey) : Bytes :=
  Envelope.headerStart k.params k.salt.length ++ k.salt

/-- The bytes of a file: the header, which is authenticated too, a nonce, and the sealed text. -/
def SessionKey.seal (k : SessionKey) (nonce text : Bytes) : Bytes :=
  k.header ++ (nonce ++ Gcm.encrypt k.bytes nonce k.header text)

namespace Session

/-- The bytes open under a password, to a vault that is written like the given one. -/
def Opens (bytes : Bytes) (password : Password) (v : Vault) : Prop :=
  ∃ e key contents v', Envelope.decode bytes = .ok e ∧ e.isLegacy = false ∧
    openEnvelope password e = .ok (key, contents) ∧
    (∀ now, Vault.ofPayload now false contents = .ok v') ∧ v'.dump = v.dump

/-- The file at a place opens under a password. -/
def Holds (d : Disk) (p : Path) (password : Password) (v : Vault) : Prop :=
  ∃ bytes, d.read p = .ok bytes ∧ Opens bytes password v

theorem Holds.congr {d d' : Disk} {p : Path} {password : Password} {v : Vault}
    (h : Holds d p password v) (hread : d'.read p = d.read p) : Holds d' p password v := by
  obtain ⟨bytes, hbytes, hopens⟩ := h
  exact ⟨bytes, hread.trans hbytes, hopens⟩

theorem Holds.exists_read {d : Disk} {p : Path} {password : Password} {v : Vault}
    (h : Holds d p password v) : ∃ bytes, d.read p = .ok bytes := by
  obtain ⟨bytes, hread, -⟩ := h
  exact ⟨bytes, hread⟩

/-- The bytes are sealed under a key with its salt and parameters, and hold a vault, all of it but
its count of changes. -/
def Seals (bytes : Bytes) (k : SessionKey) (v : Vault) : Prop :=
  ∃ e data contents, Envelope.decode bytes = .ok e ∧ e.isLegacy = false ∧ e.salt = k.salt ∧
    e.params = k.params ∧ e.associatedData = .ok data ∧
    Sealed.decrypt k.bytes e.nonce e.ciphertext data = .ok contents ∧
    ∀ now, Vault.ofPayload now false contents = .ok { v with revision := 0 }

/-- The file at a place is sealed under a key. -/
def SealedAt (d : Disk) (p : Path) (k : SessionKey) (v : Vault) : Prop :=
  ∃ bytes, d.read p = .ok bytes ∧ Seals bytes k v

variable {s : Session} {w : World} {v : Vault} {k : SessionKey} {password : Password}

theorem Seals.opens {bytes : Bytes} (h : Seals bytes k v) (hk : k.IsOf password) :
    Opens bytes password v := by
  obtain ⟨e, data, contents, hdecode, hlegacy, hsalt, hparams, hdata, hdecrypt, hpayload⟩ := h
  have hderived := hk.derived
  rw [← hsalt, ← hparams] at hderived
  refine ⟨e, k.bytes, contents, { v with revision := 0 }, hdecode, hlegacy, ?_, hpayload, rfl⟩
  simp only [openEnvelope, hderived, hdata, hdecrypt]

theorem SealedAt.holds {d : Disk} {p : Path} (h : SealedAt d p k v) (hk : k.IsOf password) :
    Holds d p password v := by
  obtain ⟨bytes, hread, hseals⟩ := h
  exact ⟨bytes, hread, hseals.opens hk⟩

/-! ### Closed sessions -/

theorem save_of_locked (hv : s.vault = none) (w : World) :
    s.save w = ⟨.error .notUnlocked, s, w⟩ := by
  rw [save, hv]

theorem save_of_keyless (hkey : s.key = none) (w : World) :
    s.save w = ⟨.error .notUnlocked, s, w⟩ := by
  rw [save, hkey]
  cases s.vault <;> rfl

theorem save_of_closed (hclosed : s.isOpen = false) (w : World) :
    s.save w = ⟨.error .notUnlocked, s, w⟩ := by
  cases hv : s.vault with
  | none => exact save_of_locked hv w
  | some v =>
    cases hkey : s.key with
    | none => exact save_of_keyless hkey w
    | some k =>
      rw [isOpen, hv, hkey] at hclosed
      contradiction

theorem changePassword_of_closed (hclosed : s.isOpen = false) (password : Password) (w : World) :
    s.changePassword password w = ⟨.error .notUnlocked, s, w⟩ := by
  rw [changePassword, hclosed]
  rfl

theorem execute_of_locked (hv : s.vault = none) (current : Path) (c : Command) (w : World) :
    s.execute current c w = ⟨.error (.session .notUnlocked), s, w⟩ := by
  rw [execute, hv]
  rfl

theorem exists_of_isOpen (hopen : s.isOpen = true) :
    ∃ v k, s.vault = some v ∧ s.key = some k := by
  rw [isOpen, Bool.and_eq_true, Option.isSome_iff_exists, Option.isSome_iff_exists] at hopen
  obtain ⟨⟨v, hv⟩, k, hkey⟩ := hopen
  exact ⟨v, k, hv, hkey⟩

theorem exists_vault (hopen : s.isOpen = true) : ∃ v, s.vault = some v := by
  obtain ⟨v, -, hv, -⟩ := exists_of_isOpen hopen
  exact ⟨v, hv⟩

/-! ### Saving -/

/-- Saving under a key that serves comes down to storing the vault, sealed under the key and a new
nonce: until then nothing can fail. -/
theorem save_eq_of_serves (hv : s.vault = some v) (hkey : s.key = some k) (hk : k.Serves)
    (hw : w.random.IsFull) :
    ∃ nonce random, nonce.length = Sealed.nonceSize ∧ random.bytes = w.random.bytes ∧
      s.save w = match w.disk.store s.path (k.seal nonce v.payload) with
        | (.error e, disk) =>
          ⟨.error (.file ⟨.cannotWrite e, s.path.text⟩), s, { w with random, disk }⟩
        | (.ok (), disk) => ⟨.ok (), { s with savedRevision := some v.revision },
          { w with random, disk }.note (.fileSaved (k.seal nonce v.payload).length)⟩ := by
  have hnonce : (w.random.draw Sealed.nonceSize).1.length = Sealed.nonceSize := hw _ _
  have hheader : Envelope.header k.params k.salt = some k.header :=
    Envelope.header_eq hk.params hk.salt
  have hencrypt := Sealed.encrypt_eq_ok w.random hk.length v.payload (some k.header)
  rw [Option.getD_some] at hencrypt
  generalize (w.random.draw Sealed.nonceSize).1 = nonce at hnonce hencrypt
  have hencode : Envelope.encode
      { salt := k.salt
        nonce
        ciphertext := Gcm.encrypt k.bytes nonce k.header v.payload
        params := k.params } = .ok (k.seal nonce v.payload) := by
    rw [Envelope.encode_eq_of_fits rfl hk.params hk.salt hnonce, SessionKey.seal, SessionKey.header,
      List.append_assoc]
  refine ⟨nonce, (w.random.draw Sealed.nonceSize).2, hnonce, rfl, ?_⟩
  cases hstore : w.disk.store s.path (k.seal nonce v.payload) with
  | mk result disk =>
    unfold save
    cases result <;> simp only [hv, hkey, hheader, hencrypt, hencode, hstore]

theorem seals_seal (hk : k.IsFit) (hsound : v.IsSound) {nonce : Bytes}
    (hnonce : nonce.length = Sealed.nonceSize) : Seals (k.seal nonce v.payload) k v := by
  have htag : Sealed.tagSize ≤ (Gcm.encrypt k.bytes nonce k.header v.payload).length := by
    rw [Gcm.length_encrypt]
    exact Nat.le_add_left _ _
  have hdecode := Envelope.decode_headerStart hk.params hk.salt hnonce _ htag
  rw [← List.append_assoc] at hdecode
  have hdata : Envelope.associatedData ⟨k.salt, nonce, Gcm.encrypt k.bytes nonce k.header v.payload,
      k.params, Envelope.currentVersion⟩ = .ok (some k.header) :=
    Envelope.associatedData_eq rfl hk.params.fitsHeader hk.salt
  have hdecrypt := Sealed.decrypt_encrypt hk.length hnonce v.payload (some k.header)
  exact ⟨_, _, _, hdecode, rfl, rfl, rfl, hdata, hdecrypt, Vault.ofPayload_payload hsound⟩

/-- Saving comes down to storing bytes that are sealed under the key and hold the vault. -/
theorem save_eq (hv : s.vault = some v) (hkey : s.key = some k) (hk : k.IsFit)
    (hsound : v.IsSound) (hw : w.random.IsFull) :
    ∃ bytes random, Seals bytes k v ∧ random.bytes = w.random.bytes ∧
      s.save w = match w.disk.store s.path bytes with
        | (.error e, disk) =>
          ⟨.error (.file ⟨.cannotWrite e, s.path.text⟩), s, { w with random, disk }⟩
        | (.ok (), disk) => ⟨.ok (), { s with savedRevision := some v.revision },
          { w with random, disk }.note (.fileSaved bytes.length)⟩ := by
  obtain ⟨nonce, random, hnonce, hrandom, hsave⟩ := save_eq_of_serves hv hkey hk.serves hw
  exact ⟨k.seal nonce v.payload, random, seals_seal hk hsound hnonce, hrandom, hsave⟩

/-- Saving stores a file that holds the vault, or fails for the disk. -/
theorem save_cases (hv : s.vault = some v) (hkey : s.key = some k) (hk : k.IsFit)
    (hsound : v.IsSound) (hw : w.random.IsFull) :
    (∃ w', s.save w = ⟨.ok (), { s with savedRevision := some v.revision }, w'⟩ ∧
      w.Continues w' ∧ SealedAt w'.disk s.path k v) ∨
    ∃ e w', s.save w = ⟨.error (.file ⟨.cannotWrite e, s.path.text⟩), s, w'⟩ ∧
      w.Continues w' ∧ w.disk.Refused s.path w'.disk := by
  obtain ⟨bytes, random, hseals, hrandom, hsave⟩ := save_eq hv hkey hk hsound hw
  rw [hsave]
  cases hstore : w.disk.store s.path bytes with
  | mk result disk =>
    have hcontinues := World.Continues.store w hrandom hstore
    cases result with
    | ok u => exact .inl ⟨_, rfl, hcontinues.note _, bytes, Disk.read_store hstore, hseals⟩
    | error e => exact .inr ⟨e, _, rfl, hcontinues, bytes, e, hstore⟩

/-! ### Keys -/

theorem isSalt_draw (hw : w.random.IsFull) : Key.IsSalt (w.random.draw saltSize).1 := by
  have hlength : (w.random.draw saltSize).1.length = saltSize := hw _ _
  rw [Key.IsSalt, hlength]
  decide

/-- What is left of a key when none can be derived in its place: the salt and the parameters are
those of the other key, and the bytes are overwritten. -/
def lostKey? (s : Session) (w : World) : Option SessionKey :=
  s.key.map fun k => { k.erased with salt := (w.random.draw saltSize).1, params := s.params }

/-- A key is derived under a new salt and the session's parameters, or the key before is lost. -/
theorem rekey_cases (password : Password) (s : Session) (w : World) :
    (∃ bytes, Key.derive password (w.random.draw saltSize).1 s.params = .ok bytes ∧
      s.rekey password w =
        ⟨.ok (), { s with key := some ⟨bytes, (w.random.draw saltSize).1, s.params⟩ },
          { w with random := (w.random.draw saltSize).2 }⟩) ∨
    ∃ e, Key.derive password (w.random.draw saltSize).1 s.params = .error e ∧
      s.rekey password w =
        ⟨.error e, { s with key := s.lostKey? w },
          { w with random := (w.random.draw saltSize).2 }⟩ := by
  unfold rekey lostKey?
  cases hderive : Key.derive password (w.random.draw saltSize).1 s.params with
  | ok bytes => exact .inl ⟨bytes, rfl, by simp only [hderive]⟩
  | error e => exact .inr ⟨e, rfl, by simp only [hderive]⟩

theorem rekey_eq (hp : s.params.IsAccepted) (hw : w.random.IsFull) (password : String) :
    ∃ k random, s.rekey password w = ⟨.ok (), { s with key := some k }, { w with random }⟩ ∧
      k.IsOf password ∧ random.bytes = w.random.bytes := by
  have hsalt := isSalt_draw hw
  obtain ⟨bytes, hderive, heq⟩ | ⟨e, herror, -⟩ := rekey_cases password s w
  · exact ⟨_, _, heq, ⟨hp, hsalt, hderive⟩, rfl⟩
  · obtain ⟨bytes, hderive⟩ := Key.exists_derive hp.fault hp.cost hsalt.1 password
    cases herror.symm.trans hderive

theorem isFit_of_lostKey? (hp : s.params.IsAccepted) (hw : w.random.IsFull)
    (hkey : ∀ k, s.key = some k → k.IsFit) (h : s.lostKey? w = some k) : k.IsFit := by
  obtain ⟨lost, hlost, rfl⟩ := Option.map_eq_some_iff.mp h
  exact ⟨(hkey lost hlost).length ▸ lost.length_erased, hp, isSalt_draw hw⟩

theorem rekey_of_not_text (hp : s.params.IsAccepted) (hw : w.random.IsFull)
    (h : password.text? = none) :
    s.rekey password w = ⟨.error .notText, { s with key := s.lostKey? w },
      { w with random := (w.random.draw saltSize).2 }⟩ := by
  have hderive := Key.derive_of_not_text hp.fault hp.cost (isSalt_draw hw).1 h
  obtain ⟨bytes, hok, -⟩ | ⟨e, herror, heq⟩ := rekey_cases password s w
  · cases hok.symm.trans hderive
  · cases herror.symm.trans hderive
    exact heq

/-! ### Opening -/

/-- Where there is nothing yet, creating a vault comes down to storing bytes that open to an empty
one. -/
theorem create_eq (hp : s.params.IsAccepted) (hw : w.random.IsFull) (password : String)
    (hfree : w.disk.isPresent s.path = false) :
    ∃ k bytes random, k.IsOf password ∧ Opens bytes password .empty ∧
      random.bytes = w.random.bytes ∧
      s.create password w = match w.disk.store s.path bytes with
        | (.error e, disk) =>
          ⟨.error (.file ⟨.cannotWrite e, s.path.text⟩), s.close, { w with random, disk }⟩
        | (.ok (), disk) =>
          ⟨.ok (), { s with vault := some .empty, key := some k, savedRevision := some 0 },
            ({ w with random, disk }.note (.fileSaved bytes.length)).note
              (.vaultCreated s.path.text)⟩ := by
  obtain ⟨k, drawn, hrekey, hk, hdrawn⟩ := rekey_eq hp hw password
  have hfull : drawn.IsFull := (World.Continues.random w hdrawn).isFull hw
  obtain ⟨bytes, random, hseals, hrandom, hsave⟩ :=
    save_eq (s := { s with vault := some .empty, key := some k }) (w := { w with random := drawn })
      rfl rfl hk.isFit Vault.isSound_empty hfull
  refine ⟨k, bytes, random, hk, hseals.opens hk, hrandom.trans hdrawn, ?_⟩
  unfold create
  simp only [hfree, Bool.false_eq_true, if_false, hrekey, hsave]
  cases w.disk.store s.path bytes with
  | mk result disk => cases result <;> rfl

/-- Creating a vault is refused, leaves the session open with an empty vault in the file, or closes
it. -/
theorem create_cases (hp : s.params.IsAccepted) (hw : w.random.IsFull) (password : String) :
    (∃ e, s.create password w = ⟨.error e, s, w⟩) ∨
    (∃ k w', s.create password w = ⟨.ok (), { s with
        vault := some .empty, key := some k, savedRevision := some 0 }, w'⟩ ∧
      k.IsOf password ∧ w.Continues w' ∧ Holds w'.disk s.path password .empty) ∨
    ∃ e w', s.create password w = ⟨.error (.file e), s.close, w'⟩ ∧ w.Continues w' := by
  cases hfree : w.disk.isPresent s.path with
  | true =>
    refine .inl ⟨.file ⟨.vaultExists, s.path.text⟩, ?_⟩
    rw [create, if_pos hfree]
  | false =>
    obtain ⟨k, bytes, random, hk, hopens, hrandom, hcreate⟩ := create_eq hp hw password hfree
    rw [hcreate]
    cases hstore : w.disk.store s.path bytes with
    | mk result disk =>
      have hcontinues := World.Continues.store w hrandom hstore
      cases result with
      | ok u =>
        exact .inr (.inl ⟨k, _, rfl, hk, (hcontinues.note _).note _, bytes,
          Disk.read_store hstore, hopens⟩)
      | error e => exact .inr (.inr ⟨_, _, rfl, hcontinues⟩)

/-- Where there is nothing yet, no vault is created under a password that is no text, and the key of an
open session is lost. -/
theorem create_of_not_text (hp : s.params.IsAccepted) (hw : w.random.IsFull)
    (h : password.text? = none) (hfree : w.disk.isPresent s.path = false) :
    s.create password w = ⟨.error (.key .notText), { s with key := s.lostKey? w },
      { w with random := (w.random.draw saltSize).2 }⟩ := by
  unfold create
  rw [hfree, if_neg Bool.false_ne_true, rekey_of_not_text hp hw h]

theorem exists_text_of_create (hp : s.params.IsAccepted) (hw : w.random.IsFull) {e : DiskError}
    {path : String} (he : (s.create password w).result = .error (.file ⟨.cannotWrite e, path⟩)) :
    ∃ text : String, password = text := by
  obtain htext | hnone := password.text_or_not
  · exact htext
  · cases hfree : w.disk.isPresent s.path with
    | true =>
      rw [create, if_pos hfree] at he
      cases he
    | false =>
      rw [create_of_not_text hp hw hnone hfree] at he
      cases he

theorem derive_of_openEnvelope {e : Envelope} {key contents : Bytes}
    (h : openEnvelope password e = .ok (key, contents)) :
    Key.derive password e.salt e.params = .ok key := by
  unfold openEnvelope at h
  split at h
  · cases h
  next key' hderive =>
  split at h
  · cases h
  · split at h
    · cases h
    · cases h
      exact hderive

theorem openEnvelope_cases {bs : Bytes} {e : Envelope} (hdecode : Envelope.decode bs = .ok e)
    (password : String) :
    openEnvelope password e = .error (.sealed .notAuthentic) ∨
    ∃ key contents, Key.derive password e.salt e.params = .ok key ∧
      openEnvelope password e = .ok (key, contents) := by
  obtain ⟨hparams, hsalt⟩ := Envelope.accepted_of_decode hdecode
  obtain ⟨key, hderive⟩ := Key.exists_derive hparams.fault hparams.cost hsalt.1 password
  obtain ⟨data, hdata⟩ : ∃ data, e.associatedData = .ok data := by
    cases hlegacy : e.isLegacy with
    | true => exact ⟨none, by rw [Envelope.associatedData, if_pos hlegacy]⟩
    | false => exact ⟨_, Envelope.associatedData_eq hlegacy hparams.fitsHeader hsalt⟩
  simp only [openEnvelope, hderive, hdata]
  cases hdecrypt : Sealed.decrypt key e.nonce e.ciphertext data with
  | error f =>
    rw [Sealed.eq_notAuthentic_of_decrypt (Key.length_of_derive hderive) hdecrypt]
    exact .inl rfl
  | ok contents => exact .inr ⟨key, contents, rfl, rfl⟩

/-- How opening a session is refused: there is no file, it cannot be read, it is not that of a
vault, or the password does not open it. -/
inductive Refusal : SessionError → Prop where
  | noVault (path : String) : Refusal (.noVault path)
  | cannotRead (e : DiskError) (path : String) : Refusal (.file ⟨.cannotRead e, path⟩)
  | corrupt (e : CorruptError) : Refusal (.corrupt e)
  | notAuthentic : Refusal (.sealed .notAuthentic)

/-- Whatever keeps contents from being a vault, it is of a kind that they are taken to be unreadable
for. -/
theorem isExpected_kind (e : PayloadError) : expectedPayloadErrors.contains e.kind = true := by
  cases e with
  | notText | notJson | notAnObject => rfl
  | unfit e => cases e <;> rfl

theorem load_cases (s : Session) (w : World) :
    (∃ e, s.load w = ⟨.error e, s, w⟩ ∧ Refusal e) ∨
    ∃ bytes envelope, w.disk.read s.path = .ok bytes ∧ Envelope.decode bytes = .ok envelope ∧
      s.load w = ⟨.ok envelope, s, w.note (.fileLoaded envelope.version bytes.length)⟩ := by
  unfold load
  cases hread : w.disk.read s.path with
  | error e =>
    cases e with
    | notFound => exact .inl ⟨_, rfl, .noVault _⟩
    | _ => exact .inl ⟨_, rfl, .cannotRead _ _⟩
  | ok bytes =>
    dsimp only
    cases hdecode : Envelope.decode bytes with
    | error e => exact .inl ⟨_, rfl, .corrupt e⟩
    | ok envelope => exact .inr ⟨bytes, envelope, rfl, hdecode, rfl⟩

section Contents

variable {bytes key contents : Bytes} {e : Envelope}

theorem unlock_current (hread : w.disk.read s.path = .ok bytes)
    (hdecode : Envelope.decode bytes = .ok e) (hlegacy : e.isLegacy = false)
    (hopen : openEnvelope password e = .ok (key, contents))
    (hpayload : Vault.ofPayload w.now false contents = .ok v) :
    ∃ w', s.unlock password w = ⟨.ok (), { s with
      vault := some v
      key := some ⟨key, e.salt, e.params⟩
      savedRevision := some v.revision }, w'⟩ := by
  have hload : s.load w = ⟨.ok e, s, w.note (.fileLoaded e.version bytes.length)⟩ := by
    simp only [load, hread, hdecode]
  have hnow : (w.note (.fileLoaded e.version bytes.length)).now = w.now := rfl
  unfold unlock
  rw [hload]
  simp only [hopen, hnow, hlegacy, hpayload, Bool.false_eq_true, if_false]
  exact ⟨_, rfl⟩

/-- A file without a header opens the session under a new key for the password, unsaved. -/
theorem unlock_legacy (hp : s.params.IsAccepted) (hw : w.random.IsFull)
    (hread : w.disk.read s.path = .ok bytes) (hdecode : Envelope.decode bytes = .ok e)
    (hlegacy : e.isLegacy = true) (hopen : openEnvelope password e = .ok (key, contents))
    (hpayload : Vault.ofPayload w.now true contents = .ok v) :
    ∃ k w', s.unlock password w =
        ⟨.ok (), { s with vault := some v, key := some k, savedRevision := none }, w'⟩ ∧
      k.IsOf password ∧ w.Continues w' ∧ w'.disk = w.disk := by
  have hload : s.load w = ⟨.ok e, s, w.note (.fileLoaded e.version bytes.length)⟩ := by
    simp only [load, hread, hdecode]
  have hloaded := (World.Continues.refl w).note (.fileLoaded e.version bytes.length)
  have hnow : (w.note (.fileLoaded e.version bytes.length)).now = w.now := rfl
  obtain ⟨text, rfl⟩ := Key.exists_text_of_derive (derive_of_openEnvelope hopen)
  obtain ⟨k, random, hrekey, hk, hrandom⟩ := rekey_eq (s := s)
    (w := w.note (.fileLoaded e.version bytes.length)) hp hw text
  unfold unlock
  rw [hload]
  simp only [hopen, hnow, hlegacy, hpayload, hrekey, if_true]
  exact ⟨k, _, rfl, hk, ((hloaded.trans (.random _ hrandom)).note _).note _, rfl⟩

end Contents

/-- Opening a session is refused and leaves it as it is, or opens it to what the file holds, or opens
it to the contents of a file without a header, which counts as unsaved. -/
theorem unlock_cases (hp : s.params.IsAccepted) (hw : w.random.IsFull) (password : String) :
    (∃ e w', s.unlock password w = ⟨.error e, s, w'⟩ ∧ Refusal e ∧ w.Continues w' ∧
      w'.disk = w.disk) ∨
    ∃ v k saved w', s.unlock password w = ⟨.ok (), { s with
        vault := some v, key := some k, savedRevision := saved }, w'⟩ ∧
      (w.now.IsValid → v.IsSound) ∧ k.IsOf password ∧ w.Continues w' ∧ w'.disk = w.disk ∧
      (saved = none ∨ saved = some v.revision ∧ Holds w'.disk s.path password v) := by
  unfold unlock
  obtain ⟨e, hload, he⟩ | ⟨bytes, envelope, hread, hdecode, hload⟩ := load_cases s w
  · rw [hload]
    exact .inl ⟨e, w, rfl, he, .refl w, rfl⟩
  · rw [hload]
    dsimp only
    have hloaded := (World.Continues.refl w).note (.fileLoaded envelope.version bytes.length)
    obtain hopen | ⟨key, contents, hderive, hopen⟩ := openEnvelope_cases hdecode password
    · rw [hopen]
      exact .inl ⟨_, _, rfl, .notAuthentic, hloaded.note _, rfl⟩
    · rw [hopen]
      dsimp only
      have hnow : (w.note (.fileLoaded envelope.version bytes.length)).now = w.now := rfl
      rw [hnow]
      cases hpayload : Vault.ofPayload w.now envelope.isLegacy contents with
      | error e =>
        simp only [if_pos (isExpected_kind e)]
        exact .inl ⟨_, _, rfl, .corrupt _, hloaded, rfl⟩
      | ok v =>
        dsimp only
        have hsound := fun hnow : w.now.IsValid => Vault.isSound_of_ofPayload hnow hpayload
        cases hlegacy : envelope.isLegacy with
        | true =>
          -- The key that opens the file is given up for one with a salt of its own.
          obtain ⟨k, random, hrekey, hk, hrandom⟩ := rekey_eq (s := s)
            (w := w.note (.fileLoaded envelope.version bytes.length)) hp hw password
          rw [hrekey]
          have hrekeyed := hloaded.trans (.random _ hrandom)
          exact .inr ⟨v, k, none, _, rfl, hsound, hk, (hrekeyed.note _).note _, rfl, .inl rfl⟩
        | false =>
          -- The session goes on with the key of the file, which therefore holds what was read.
          obtain ⟨hparams, hsalt⟩ := Envelope.accepted_of_decode hdecode
          rw [hlegacy] at hpayload
          refine .inr ⟨v, ⟨key, envelope.salt, envelope.params⟩, some v.revision, _, rfl, hsound,
            ⟨hparams, hsalt, hderive⟩, hloaded.note _, rfl, .inr ⟨rfl, ?_⟩⟩
          exact ⟨bytes, hread, envelope, key, contents, v, hdecode, hlegacy, hopen,
            fun now => (Vault.ofPayload_now now w.now contents).trans hpayload, rfl⟩

theorem unlock_eq_notText {bytes : Bytes} {e : Envelope} (h : password.text? = none)
    (hread : w.disk.read s.path = .ok bytes) (hdecode : Envelope.decode bytes = .ok e) :
    s.unlock password w =
      ⟨.error (.key .notText), s, w.note (.fileLoaded e.version bytes.length)⟩ := by
  obtain ⟨hparams, hsalt⟩ := Envelope.accepted_of_decode hdecode
  have hopen : openEnvelope password e = .error (.key .notText) := by
    rw [openEnvelope, Key.derive_of_not_text hparams.fault hparams.cost hsalt.1 h]
  unfold unlock
  simp only [load, hread, hdecode, hopen]

/-- Under a password that is no text, no file opens the session, and it stays as it is. -/
theorem unlock_of_not_text (h : password.text? = none) (s : Session) (w : World) :
    (∃ e, s.unlock password w = ⟨.error e, s, w⟩ ∧ Refusal e) ∨
    ∃ bytes e, w.disk.read s.path = .ok bytes ∧ Envelope.decode bytes = .ok e ∧
      s.unlock password w =
        ⟨.error (.key .notText), s, w.note (.fileLoaded e.version bytes.length)⟩ := by
  obtain ⟨e, hload, he⟩ | ⟨bytes, envelope, hread, hdecode, -⟩ := load_cases s w
  · rw [unlock, hload]
    exact .inl ⟨e, rfl, he⟩
  · exact .inr ⟨bytes, envelope, hread, hdecode, unlock_eq_notText h hread hdecode⟩

theorem exists_read_of_unlock (h : (s.unlock password w).result = .ok ()) :
    ∃ bytes, w.disk.read s.path = .ok bytes := by
  obtain ⟨e, hload, -⟩ | ⟨bytes, -, hread, -⟩ := load_cases s w
  · rw [unlock, hload] at h
    cases h
  · exact ⟨bytes, hread⟩

theorem changePassword_cases (hv : s.vault = some v) (hkey : s.key = some k)
    (hp : s.params.IsAccepted) (hsound : v.IsSound) (hw : w.random.IsFull) (new : String) :
    (∃ k' w', s.changePassword new w = ⟨.ok (), { s with
        key := some k', savedRevision := some v.revision }, w'⟩ ∧
      k'.IsOf new ∧ w.Continues w' ∧ Holds w'.disk s.path new v) ∨
    ∃ e w', s.changePassword new w = ⟨.error (.file e), s, w'⟩ ∧ w.Continues w' ∧
      w.disk.Refused s.path w'.disk := by
  have hopen : s.isOpen = true := by rw [isOpen, hv, hkey]; rfl
  obtain ⟨k', random, hrekey, hk', hrandom⟩ := rekey_eq (s := { s with key := none }) hp hw new
  have hcontinues := World.Continues.random w hrandom
  have hsave := save_cases (s := { s with key := some k' }) hv rfl hk'.isFit hsound
    (hcontinues.isFull hw)
  unfold changePassword
  simp only [hopen, Bool.not_true, Bool.false_eq_true, if_false, hrekey]
  obtain ⟨w₂, hok, hw₂, hsealed⟩ | ⟨e, w₂, herror, hw₂, hrefused⟩ := hsave
  · rw [hok]
    exact .inl ⟨k', _, rfl, hk', (hcontinues.trans hw₂).note _, hsealed.holds hk'⟩
  · rw [herror]
    exact .inr ⟨_, w₂, rfl, hcontinues.trans hw₂, hrefused⟩

theorem changePassword_of_not_text (hopen : s.isOpen = true) (hp : s.params.IsAccepted)
    (hw : w.random.IsFull) (h : password.text? = none) :
    s.changePassword password w = ⟨.error (.key .notText), { s with key := none },
      { w with random := (w.random.draw saltSize).2 }⟩ := by
  unfold changePassword
  rw [hopen]
  dsimp only
  rw [rekey_of_not_text (s := { s with key := none }) hp hw h]
  rfl

theorem exists_text_of_changePassword (hp : s.params.IsAccepted) (hw : w.random.IsFull)
    {e : FileError} (he : (s.changePassword password w).result = .error (.file e)) :
    ∃ text : String, password = text := by
  obtain htext | hnone := password.text_or_not
  · exact htext
  · cases hopen : s.isOpen with
    | false =>
      rw [changePassword_of_closed hopen] at he
      cases he
    | true =>
      rw [changePassword_of_not_text hopen hp hw hnone] at he
      cases he

/-! ### Commands -/

theorem noteImport_continues (before after : Vault) (report : ImportReport) (w : World) :
    w.Continues (noteImport before after report w) ∧
      (noteImport before after report w).disk = w.disk := by
  have hfold : ∀ (names : List String) (u : World), w.Continues u ∧ u.disk = w.disk →
      w.Continues (names.foldl (fun w name => w.note (.recordCreated name)) u) ∧
        (names.foldl (fun w name => w.note (.recordCreated name)) u).disk = w.disk := by
    intro names
    induction names with
    | nil => exact fun u hu => hu
    | cons name names ih => exact fun u hu => ih _ ⟨hu.1.note _, hu.2⟩
  obtain ⟨hw, hdisk⟩ := hfold (after.names.drop before.size) w ⟨.refl w, rfl⟩
  exact ⟨(hw.note _).note _, hdisk⟩

inductive Unsaved : ExecuteError → Prop where
  | cannotWrite (e : DiskError) (path : String) : Unsaved (.session (.file ⟨.cannotWrite e, path⟩))

theorem not_unsaved_vault (e : VaultError) : ¬ Unsaved (.vault e) := by
  intro h
  cases h

theorem not_unsaved_of_importFileLines {current : Path} {path : String} {d : Disk} {e : FileError}
    (h : importFileLines current path d = .error e) : ¬ Unsaved (.session (.file e)) := by
  intro hunsaved
  cases hunsaved
  unfold importFileLines at h
  split at h
  · cases h
  · split at h
    · cases h
    · cases h

end Session

def Command.isReading : Command → Bool
  | .show .. | .history .. | .copy .. => true
  | _ => false

/-- The call that a command makes to the vault, if it makes one. An import needs its file for it. -/
def Command.call? (current : Path) (d : Disk) : Command → Option Vault.Call
  | .set spec => some (.set spec.name spec.fields)
  | .delete name [] => some (.delete name)
  | .delete name keys => some (.deleteFields name keys)
  | .rename old new => some (.rename old new)
  | .importFile path =>
    match Session.importFileLines current path d with
    | .ok lines => some (.importEntries (readImportLines 1 lines).1)
    | .error _ => none
  | .show .. | .history .. | .copy .. => none

/-- What a command makes of a vault, if it calls for a change. -/
def Command.effect? (current : Path) (w : World) (v : Vault) (c : Command) : Option Vault :=
  (c.call? current w.disk).map fun call => (Vault.perform w.now (v, w.ids) call).1

/-- Whether a command makes nothing of a vault but what it is. -/
def Command.Idles (current : Path) (w : World) (v : Vault) (c : Command) : Prop :=
  ∀ v', c.effect? current w v = some v' → v' = v

theorem Command.idles_of_none {current : Path} {w : World} {v : Vault} {c : Command}
    (hcall : c.call? current w.disk = none) : c.Idles current w v := by
  intro v' heffect
  rw [effect?, hcall] at heffect
  contradiction

theorem Command.idles_of_perform {current : Path} {w : World} {v : Vault} {c : Command}
    {call : Vault.Call} (hcall : c.call? current w.disk = some call)
    (hsame : (Vault.perform w.now (v, w.ids) call).1 = v) : c.Idles current w v := by
  intro v' heffect
  rw [effect?, hcall, Option.map_some, hsame] at heffect
  exact (Option.some.inj heffect).symm

namespace Session

variable {s : Session} {w : World} {v : Vault} {k : SessionKey} {password : Password}

/-- The outcome of a command that changes nothing: it only looks, or it is refused, in which case
there is no effect to be missed. -/
structure Spares (current : Path) (c : Command) (s : Session) (w : World) (v : Vault)
    (o : Outcome ExecuteError CommandResult) : Prop where
  session : o.session = s
  world : o.world = w
  refused : ∀ e, o.result = .error e → ¬ Unsaved e
  looked : ∀ r, o.result = .ok r → c.isReading = true
  idles : c.Idles current w v

variable {current : Path} {c : Command}

theorem Spares.refuse {e : ExecuteError} (he : ¬ Unsaved e) (hidles : c.Idles current w v) :
    Spares current c s w v (s.refuse e w) := by
  refine ⟨rfl, rfl, ?_, ?_, hidles⟩
  · rintro _ ⟨⟩
    exact he
  · rintro _ ⟨⟩

theorem Spares.failed {call : Vault.Call} (e : VaultError)
    (hcall : c.call? current w.disk = some call)
    (hsame : (Vault.perform w.now (v, w.ids) call).1 = v) :
    Spares current c s w v (s.refuse (.vault e) w) :=
  .refuse (not_unsaved_vault e) (Command.idles_of_perform hcall hsame)

theorem Spares.look {r : CommandResult} (hc : c.isReading = true)
    (hidles : c.Idles current w v) : Spares current c s w v ⟨.ok r, s, w⟩ := by
  refine ⟨rfl, rfl, ?_, fun _ _ => hc, hidles⟩
  rintro _ ⟨⟩

/-- A command on an open vault changes nothing, or commits what its call makes of the vault. -/
theorem execute_cases (hv : s.vault = some v) (current : Path) (c : Command) (w : World) :
    Spares current c s w v (s.execute current c w) ∨
    ∃ call r w', c.isReading = false ∧ c.call? current w.disk = some call ∧
      s.execute current c w = s.commit c r (Vault.perform w.now (v, w.ids) call).1 w' ∧
      w.Continues w' ∧ w'.disk = w.disk := by
  unfold execute
  rw [hv]
  dsimp only
  -- A command that edits makes one call. If the vault fails it, the command is refused; otherwise
  -- what is committed is what the call makes of the vault.
  cases c with
  | set spec =>
    dsimp only
    cases h : v.set w.now w.ids spec.name spec.fields with
    | error e => exact .inl (.failed e rfl (by simp only [Vault.perform, h]))
    | ok changed =>
      obtain ⟨r, v', ids⟩ := changed
      have hcall : v' = (Vault.perform w.now (v, w.ids) (.set spec.name spec.fields)).1 := by
        simp only [Vault.perform, h]
      rw [hcall]
      refine .inr ⟨.set spec.name spec.fields, _, _, rfl, rfl, rfl, ?_⟩
      -- A record that is new is noted.
      split
      · exact ⟨.ids w ids, rfl⟩
      · exact ⟨(World.Continues.ids w ids).note _, rfl⟩
  | delete name keys =>
    cases keys with
    | nil =>
      dsimp only
      cases h : v.delete w.now name with
      | error e => exact .inl (.failed e rfl (by simp only [Vault.perform, h]))
      | ok changed =>
        obtain ⟨r, v'⟩ := changed
        have hcall : v' = (Vault.perform w.now (v, w.ids) (.delete name)).1 := by
          simp only [Vault.perform, h]
        rw [hcall]
        exact .inr ⟨.delete name, _, _, rfl, rfl, rfl, (World.Continues.refl w).note _, rfl⟩
    | cons key keys =>
      dsimp only
      cases h : v.deleteFields w.now name (key :: keys) with
      | error e => exact .inl (.failed e rfl (by simp only [Vault.perform, h]))
      | ok changed =>
        obtain ⟨r, v'⟩ := changed
        have hcall : v' = (Vault.perform w.now (v, w.ids) (.deleteFields name (key :: keys))).1 := by
          simp only [Vault.perform, h]
        rw [hcall]
        exact .inr ⟨.deleteFields name (key :: keys), _, _, rfl, rfl, rfl, .refl w, rfl⟩
  | rename old new =>
    dsimp only
    cases h : v.rename w.now old new with
    | error e => exact .inl (.failed e rfl (by simp only [Vault.perform, h]))
    | ok changed =>
      obtain ⟨r, v'⟩ := changed
      have hcall : v' = (Vault.perform w.now (v, w.ids) (.rename old new)).1 := by
        simp only [Vault.perform, h]
      rw [hcall]
      exact .inr ⟨.rename old new, _, _, rfl, rfl, rfl, .refl w, rfl⟩
  | importFile path =>
    dsimp only
    cases h : importFileLines current path w.disk with
    | error e =>
      -- Without its lines an import makes no call at all.
      have hcall : (Command.importFile path).call? current w.disk = none := by
        simp only [Command.call?, h]
      exact .inl (.refuse (not_unsaved_of_importFileLines h) (Command.idles_of_none hcall))
    | ok lines =>
      have hcall : (Command.importFile path).call? current w.disk =
          some (.importEntries (readImportLines 1 lines).1) := by
        simp only [Command.call?, h]
      obtain ⟨hw, hdisk⟩ := noteImport_continues v (v.importLines w.now w.ids lines).2.1
        (v.importLines w.now w.ids lines).1 { w with ids := (v.importLines w.now w.ids lines).2.2 }
      exact .inr ⟨.importEntries (readImportLines 1 lines).1, _, _, rfl, hcall, rfl,
        (World.Continues.ids w _).trans hw, hdisk⟩
  | «show» filter reveal =>
    dsimp only
    cases v.reveal? filter with
    | none => exact .inl (.refuse (by rintro ⟨⟩) (Command.idles_of_none rfl))
    | some found => exact .inl (.look rfl (Command.idles_of_none rfl))
  | history name reveal =>
    dsimp only
    cases v.history name reveal with
    | error e => exact .inl (.refuse (not_unsaved_vault e) (Command.idles_of_none rfl))
    | ok entries => exact .inl (.look rfl (Command.idles_of_none rfl))
  | copy name key =>
    dsimp only
    cases v.fieldValue name key with
    | error e => exact .inl (.refuse (not_unsaved_vault e) (Command.idles_of_none rfl))
    | ok value => exact .inl (.look rfl (Command.idles_of_none rfl))

/-- Committing a vault leaves the session with that vault, saved or not. -/
theorem commit_cases (hkey : s.key = some k) (hk : k.IsFit) (hsound : v.IsSound)
    (hw : w.random.IsFull) (c : Command) (r : CommandResult) :
    (∃ result w', s.commit c r v w = ⟨.ok result, { s with
        vault := some v, savedRevision := some v.revision }, w'⟩ ∧
      w.Continues w' ∧ SealedAt w'.disk s.path k v) ∨
    ∃ e w', s.commit c r v w = ⟨.error e, { s with vault := some v }, w'⟩ ∧ Unsaved e ∧
      w.Continues w' ∧ w.disk.Refused s.path w'.disk := by
  have hsave := save_cases (s := { s with vault := some v }) rfl hkey hk hsound hw
  unfold commit
  obtain ⟨w', hok, hw', hsealed⟩ | ⟨e, w', herror, hw', hrefused⟩ := hsave
  · rw [hok]
    exact .inl ⟨_, _, rfl, hw'.note _, hsealed⟩
  · rw [herror]
    exact .inr ⟨_, w', rfl, .cannotWrite e _, hw', hrefused⟩

/-- In a session without a key a command changes nothing, or it takes its effect and is not saved. -/
theorem execute_of_keyless (hv : s.vault = some v) (hkey : s.key = none) (hsound : v.IsSound)
    (hnow : w.now.IsValid) (current : Path) (c : Command) :
    Spares current c s w v (s.execute current c w) ∨
    ∃ e v' w', s.execute current c w = ⟨.error e, { s with vault := some v' }, w'⟩ ∧ v'.IsSound ∧
      v.Follows v' ∧ w.Continues w' ∧ w'.disk = w.disk := by
  obtain hspares | ⟨call, r, w', -, -, heq, hw', hdisk⟩ := execute_cases hv current c w
  · exact .inl hspares
  · have hsave := fun v' => save_of_keyless (s := { s with vault := some v' }) hkey w'
    rw [heq, commit, hsave]
    exact .inr ⟨_, _, w', rfl, Vault.isSound_perform hnow (v, w.ids) hsound call,
      Vault.follows_perform w.now (v, w.ids) call, hw', hdisk⟩

/-- A command changes nothing, or takes its effect and is saved, or takes its effect and the disk
refuses the file. -/
theorem execute_outcome (hv : s.vault = some v) (hkey : s.key = some k) (hk : k.IsFit)
    (hsound : v.IsSound) (hfull : w.random.IsFull) (hnow : w.now.IsValid) (current : Path)
    (c : Command) :
    Spares current c s w v (s.execute current c w) ∨
    ∃ v' w', c.isReading = false ∧ c.effect? current w v = some v' ∧ v'.IsSound ∧
      v.Follows v' ∧ w.Continues w' ∧
      ((∃ r, s.execute current c w =
          ⟨.ok r, { s with vault := some v', savedRevision := some v'.revision }, w'⟩ ∧
        SealedAt w'.disk s.path k v') ∨
      ∃ e, s.execute current c w = ⟨.error e, { s with vault := some v' }, w'⟩ ∧ Unsaved e ∧
        w.disk.Refused s.path w'.disk) := by
  obtain hspares | ⟨call, r, w₁, hc, hcall, heq, hw₁, hdisk₁⟩ := execute_cases hv current c w
  · exact .inl hspares
  · have heffect : c.effect? current w v = some (Vault.perform w.now (v, w.ids) call).1 := by
      rw [Command.effect?, hcall, Option.map_some]
    have hsound' := Vault.isSound_perform hnow (v, w.ids) hsound call
    have hfollows := Vault.follows_perform w.now (v, w.ids) call
    generalize (Vault.perform w.now (v, w.ids) call).1 = v' at heq heffect hsound' hfollows
    rw [heq]
    refine .inr ?_
    obtain ⟨r', w', hcommit, hw', hsealed⟩ | ⟨e, w', hcommit, he, hw', hrefused⟩ :=
      commit_cases hkey hk hsound' (hw₁.isFull hfull) c r
    · exact ⟨v', w', hc, heffect, hsound', hfollows, hw₁.trans hw', .inl ⟨r', hcommit, hsealed⟩⟩
    · rw [hdisk₁] at hrefused
      exact ⟨v', w', hc, heffect, hsound', hfollows, hw₁.trans hw', .inr ⟨e, hcommit, he, hrefused⟩⟩

end Session

end Coffer
