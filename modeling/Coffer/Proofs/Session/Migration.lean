import Coffer.Proofs.Session.Readback
import Coffer.Proofs.Vault.Legacy

/-!
Files without a header move to the current format and keep their records. Opening such a file leaves
the session open and unsaved, under a new key for the same password. What is saved then has a header,
and opens under that password to the records that the old contents describe (`migrates`).

Only reading the old contents changes their form, and what it does to the records is said by
`Json.Describes`. All other steps hand on the vault as it is: opening takes it from the contents,
saving seals it (`save_cases`), and opening again takes it from what was sealed
(`unlock_of_sealedAt`).
-/

namespace Coffer.Session

variable {s : Session} {w : World} {v : Vault} {k : SessionKey} {password : String}

/-- The key of files without a header. -/
def legacyKey (password : String) (salt : Bytes) : Bytes :=
  Pbkdf2.derive (Bytes.ofText password) salt KeyParams.legacy.iterations.toNat

/-- A file without a header: salt, nonce and sealed contents follow each other. -/
def legacyFile (password : String) (salt nonce contents : Bytes) : Bytes :=
  salt ++ (nonce ++ Gcm.encrypt (legacyKey password salt) nonce [] contents)

/-! ### Opening -/

theorem openEnvelope_legacy {salt nonce : Bytes} (hnonce : nonce.length = Sealed.nonceSize)
    (password : String) (contents : Bytes) :
    openEnvelope password
        ⟨salt, nonce, Gcm.encrypt (legacyKey password salt) nonce [] contents, .legacy, 0⟩ =
      .ok (legacyKey password salt, contents) := by
  have hderive : Key.derive password salt .legacy = .ok (legacyKey password salt) := by
    rw [Key.derive_eq KeyParams.isAccepted_legacy.fault, Key.secret_ofText]
    rfl
  have hdecrypt := Sealed.decrypt_encrypt (Key.length_of_derive hderive) hnonce contents none
  rw [Option.getD_none] at hdecrypt
  generalize Gcm.encrypt _ nonce [] contents = ciphertext at hdecrypt
  have hdata : Envelope.associatedData ⟨salt, nonce, ciphertext, .legacy, 0⟩ = .ok none := rfl
  simp only [openEnvelope, hderive, hdata, hdecrypt]

/-- A file that is sealed under a key of a password opens under that password to the same vault, but
for the count of changes. -/
theorem unlock_of_sealedAt (h : SealedAt w.disk s.path k v) (hk : k.IsOf password) :
    ∃ s' w', s.unlock password w = ⟨.ok (), s', w'⟩ ∧
      s'.vault = some { v with revision := 0 } := by
  obtain ⟨bytes, hread, e, data, contents, hdecode, hlegacy, hsalt, hparams, hdata, hdecrypt,
    hpayload⟩ := h
  have hderived := hk.derived
  rw [← hsalt, ← hparams] at hderived
  have hopen : openEnvelope password e = .ok (k.bytes, contents) := by
    simp only [openEnvelope, hderived, hdata, hdecrypt]
  obtain ⟨w', hunlock⟩ := unlock_current hread hdecode hlegacy hopen (hpayload w.now)
  exact ⟨_, w', hunlock, rfl⟩

/-! ### Moving -/

/-- The file at a place has a header, and every new session opens it under a password to records that
an old value describes. -/
structure Moved (d : Disk) (path : Path) (password : String) (old : Json) : Prop where
  current : ∃ bytes e, d.read path = .ok bytes ∧ Envelope.decode bytes = .ok e ∧
    e.version = Envelope.currentVersion
  opens : ∀ (params : KeyParams) (w : World), w.disk.read path = d.read path →
    ∃ s w' v, (Session.new path params).unlock password w = ⟨.ok (), s, w'⟩ ∧ s.vault = some v ∧
      old.Describes v.records ∧ (∀ r ∈ v.records, r.history = []) ∧ v.tombstones = []

theorem moved_of_sealedAt {d : Disk} {path : Path} {old : Json} (h : SealedAt d path k v)
    (hk : k.IsOf password) (hold : old.Describes v.records)
    (hhistory : ∀ r ∈ v.records, r.history = []) (htombstones : v.tombstones = []) :
    Moved d path password old where
  current := by
    obtain ⟨bytes, hread, e, _, _, hdecode, hlegacy, -⟩ := h
    refine ⟨bytes, e, hread, hdecode, ?_⟩
    have hversion := Envelope.version_of_decode hdecode
    split at hversion
    · exact hversion
    · rw [Envelope.isLegacy, hversion] at hlegacy
      contradiction
  opens := by
    intro params w hread
    have hsealed : SealedAt w.disk (Session.new path params).path k v := by
      obtain ⟨bytes, hbytes, hseals⟩ := h
      exact ⟨bytes, hread.trans hbytes, hseals⟩
    obtain ⟨s, w', hunlock, hvault⟩ := unlock_of_sealedAt hsealed hk
    exact ⟨s, w', _, hunlock, hvault, hold, hhistory, htombstones⟩

/-- A file without a header whose contents can be loaded is opened under its password, and the session
is then open and unsaved. Saving it fails only if the disk refuses the file; once it succeeds, the file
has a header, and new sessions open it under the same password to the records that the old contents
describe, without logs and without deleted ones. -/
theorem migrates {salt nonce contents : Bytes} {text : String} {old : Json} {v : Vault}
    (hp : s.params.IsAccepted) (hw : w.random.IsFull) (hnow : w.now.IsValid)
    (hsalt : salt.length = Envelope.legacySaltSize) (hnonce : nonce.length = Sealed.nonceSize)
    (hmagic : Envelope.magic.isPrefixOf (legacyFile password salt nonce contents) = false)
    (hread : w.disk.read s.path = .ok (legacyFile password salt nonce contents))
    (htext : Bytes.toText? contents = some text) (hjson : Json.read text.toList = some old)
    (hload : Vault.loadLegacy w.now old = .ok v) :
    ∃ s' w', s.unlock password w = ⟨.ok (), s', w'⟩ ∧ s'.isOpen = true ∧ s'.isDirty = true ∧
      ∀ w'' : World, w''.random.IsFull →
        ((s'.save w'').result = .ok () ∧ Moved (s'.save w'').world.disk s.path password old) ∨
        ∃ e, (s'.save w'').result = .error (.file ⟨.cannotWrite e, s.path.text⟩) ∧
          w''.disk.Refused s.path (s'.save w'').world.disk := by
  -- The old file is long enough to be taken apart, and opens to a vault.
  have htag : Sealed.tagSize ≤
      (Gcm.encrypt (legacyKey password salt) nonce [] contents).length := by
    rw [Gcm.length_encrypt]
    exact Nat.le_add_left _ _
  have hdecode := Envelope.decode_legacy hmagic hsalt hnonce htag
  have hpayload : Vault.ofPayload w.now true contents = .ok v := by
    simp only [Vault.ofPayload, htext, hjson, hload]
    rfl
  obtain ⟨k, w', hunlock, hk, -, -⟩ := unlock_legacy hp hw hread hdecode rfl
    (openEnvelope_legacy hnonce password contents) hpayload
  refine ⟨_, w', hunlock, rfl, rfl, fun w'' hw'' => ?_⟩
  -- What is saved later is this vault as it was loaded, under the key that was made for it.
  obtain ⟨hold, hhistory, htombstones⟩ := Vault.describes_of_loadLegacy hload
  have hsound := Vault.isSound_of_loadLegacy hnow hload
  obtain ⟨w₁, heq, -, hsealed⟩ | ⟨e, w₁, heq, -, hrefused⟩ :=
    save_cases (s := { s with vault := some v, key := some k, savedRevision := none }) (w := w'')
      rfl rfl hk.isFit hsound hw''
  · rw [heq]
    exact .inl ⟨rfl, moved_of_sealedAt hsealed hk hold hhistory htombstones⟩
  · rw [heq]
    exact .inr ⟨e, rfl, hrefused⟩

/-- An old list with one record, a key of which is given twice. -/
def oldText : String :=
  "[\x7b\"name\": \"mail\", \"id\": \"00000000-0000-4000-8000-000000000001\", \"fields\": [" ++
    "\x7b\"attr\": \"user\", \"value\": \"me\"\x7d, " ++
    "\x7b\"attr\": \"pin\", \"value\": 1234, \"sensitive\": true\x7d, " ++
    "\x7b\"attr\": \"user\", \"value\": \"you\"\x7d]\x7d]"

def oldValue : Json :=
  .arr [.obj [("name", .str "mail"), ("id", .str "00000000-0000-4000-8000-000000000001"),
    ("fields", .arr [.obj [("attr", .str "user"), ("value", .str "me")],
      .obj [("attr", .str "pin"), ("value", .int 1234), ("sensitive", .bool true)],
      .obj [("attr", .str "user"), ("value", .str "you")]])]]

def oldVault : Vault :=
  ⟨[⟨"mail", ⟨0x40008000000000000001⟩, [⟨"user", "you", false⟩, ⟨"pin", "1234", true⟩], [],
    .utc 0, .utc 0⟩], [], 0⟩

def oldFile : Bytes :=
  legacyFile "open sesame" (List.replicate 16 7) (List.replicate 12 9) (Bytes.ofText oldText)

/-- Surroundings in which there is such a file. -/
def oldWorld : World :=
  { State.blankWorld with disk := ⟨[(⟨false, ["vault"]⟩, .file oldFile)], false⟩ }

theorem migrates_oldFile :
    let s := Session.new ⟨false, ["vault"]⟩ State.cheapParams
    Vault.loadLegacy oldWorld.now oldValue = .ok oldVault ∧
    ∃ s' w', s.unlock "open sesame" oldWorld = ⟨.ok (), s', w'⟩ ∧ s'.isOpen = true ∧
      s'.isDirty = true ∧ (s'.save oldWorld).result = .ok () ∧
      Moved (s'.save oldWorld).world.disk s.path "open sesame" oldValue := by
  intro s
  have hread : oldWorld.disk.read s.path = .ok oldFile := rfl
  have hmagic : Envelope.magic.isPrefixOf oldFile = false := rfl
  have hjson : Json.read oldText.toList = some oldValue := by decide +kernel
  have hload : Vault.loadLegacy oldWorld.now oldValue = .ok oldVault := by decide +kernel
  have htakes : oldWorld.disk.Takes s.path := fun _ => ⟨_, rfl⟩
  obtain ⟨s', w', hunlock, hopen, hdirty, hsave⟩ := migrates (s := s) (w := oldWorld)
    State.isAccepted_cheapParams State.isFull_blankWorld State.isValid_blankWorld rfl rfl hmagic
    hread (Bytes.toText?_ofText oldText) hjson hload
  refine ⟨hload, s', w', hunlock, hopen, hdirty, ?_⟩
  obtain hsaved | ⟨e, -, bytes, f, hrefused⟩ := hsave oldWorld State.isFull_blankWorld
  · exact hsaved
  · obtain ⟨d, htaken⟩ := htakes bytes
    cases htaken.symm.trans hrefused

end Coffer.Session
