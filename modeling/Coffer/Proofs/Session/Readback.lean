import Coffer.Proofs.Session.Files
import Coffer.Proofs.Session.Sealing

/-!
Whether the file of a new vault can be read. Deriving a key checks that the parameters are valid, and
the header takes those that fit into it (`create_ok`); reading the file moreover refuses those that
cost too much, which are taken for damage. So a vault that was created can be opened if its
parameters are within these limits, and if they are not, it can never be opened again
(`create_readback`).
-/

namespace Coffer

theorem Key.exists_derive_of_fits {salt : Bytes} {p : KeyParams} (hfault : p.fault? = none)
    (hp : p.FitsHeader) (hsalt : minSaltSize ≤ salt.length) (password : String) :
    ∃ key, derive password salt p = .ok key := by
  have hiterations := hp.iterations
  have hmemory := hp.memory
  have hlanes := hp.lanes
  simp only [Envelope.Fits] at hiterations hmemory hlanes
  have hcost : p.iterations < costLimit ∧ p.memory < costLimit ∧ p.lanes < costLimit := by
    rw [costLimit]
    omega
  obtain ⟨stretch, hderive⟩ := exists_stretch hfault (.inr hcost) hsalt
  exact ⟨_, by rw [hderive, secret_ofText]; rfl⟩

namespace Session

variable {s : Session} {w : World} {v : Vault} {k : SessionKey} {password : Password}

/-! ### Writing -/

/-- An open session is saved if its key has parameters that fit into a header. -/
theorem save_ok (hv : s.vault = some v) (hkey : s.key = some k)
    (hlength : k.bytes.length = Sealed.keySize) (hp : k.params.FitsHeader)
    (hsalt : Key.IsSalt k.salt) (hw : w.random.IsFull) (htakes : w.disk.Takes s.path) :
    (s.save w).result = .ok () := by
  obtain ⟨nonce, random, -, -, hsave⟩ := save_eq_of_serves hv hkey ⟨hlength, hp, hsalt⟩ hw
  obtain ⟨d, hstore⟩ := htakes (k.seal nonce v.payload)
  rw [hsave, hstore]

/-- Where there is nothing yet, a vault is created under any valid parameters that fit into a header.
-/
theorem create_ok (hfault : s.params.fault? = none) (hp : s.params.FitsHeader)
    (hw : w.random.IsFull) (hfree : w.disk.isPresent s.path = false)
    (htakes : w.disk.Takes s.path) (password : String) :
    (s.create password w).result = .ok () := by
  have hsalt := isSalt_draw hw
  obtain ⟨key, hderive, hrekey⟩ | ⟨e, herror, -⟩ := rekey_cases password s w
  case inr =>
    obtain ⟨key, hderive⟩ := Key.exists_derive_of_fits hfault hp hsalt.1 password
    cases herror.symm.trans hderive
  let k : SessionKey := ⟨key, (w.random.draw saltSize).1, s.params⟩
  have hsave := save_ok (s := { s with vault := some .empty, key := some k })
    (w := { w with random := (w.random.draw saltSize).2 }) rfl rfl (Key.length_of_derive hderive) hp
    hsalt hw htakes
  unfold create
  simp only [hfree, Bool.false_eq_true, if_false, hrekey]
  generalize Session.save _ _ = saved at hsave
  obtain ⟨result, s', w'⟩ := saved
  cases hsave
  rfl

/-! ### What was written -/

theorem key_save (s : Session) (w : World) : (s.save w).session.key = s.key := by
  unfold save
  dsimp only
  repeat' split
  all_goals rfl

/-- The key of a session was derived under these parameters, which are valid. -/
def IsKeyed (s : Session) (params : KeyParams) : Prop :=
  ∃ k, s.key = some k ∧ k.params = params ∧ Key.IsSalt k.salt ∧ k.params.fault? = none

theorem isKeyed_rekey (password : Password) (hw : w.random.IsFull)
    (h : (s.rekey password w).result = .ok ()) : (s.rekey password w).session.IsKeyed s.params := by
  obtain ⟨key, hderive, heq⟩ | ⟨e, -, heq⟩ := rekey_cases password s w
  · rw [heq]
    exact ⟨_, rfl, rfl, isSalt_draw hw, Key.fault?_of_derive hderive⟩
  · rw [heq] at h
    cases h

/-- A vault that was created was saved, empty, under a key that was derived for it. -/
theorem create_of_ok (h : (s.create password w).result = .ok ()) :
    ∃ s₁ w₁ e, s.rekey password w = ⟨.ok (), s₁, w₁⟩ ∧
      (s.create password w).session = ({ s₁ with vault := some .empty }.save w₁).session ∧
      (s.create password w).world = ({ s₁ with vault := some .empty }.save w₁).world.note e := by
  unfold create at h ⊢
  split at h
  · cases h
  next hfree =>
  rw [if_neg hfree]
  generalize s.rekey password w = rekeyed at h
  obtain ⟨e | u, s₁, w₁⟩ := rekeyed
  · cases h
  · refine ⟨s₁, w₁, .vaultCreated ({ s₁ with vault := some .empty }.save w₁).session.path.text, rfl,
      ?_⟩
    dsimp only at h ⊢
    generalize Session.save _ w₁ = saved at h
    obtain ⟨e | u, s₂, w₂⟩ := saved
    · cases e <;> cases h
    · exact ⟨rfl, rfl⟩

theorem isKeyed_create (hw : w.random.IsFull) (h : (s.create password w).result = .ok ()) :
    (s.create password w).session.IsKeyed s.params := by
  obtain ⟨s₁, w₁, -, hrekey, hsession, -⟩ := create_of_ok h
  obtain ⟨k, hkey, hk⟩ := isKeyed_rekey (s := s) password hw (by rw [hrekey])
  rw [hrekey] at hkey
  rw [hsession]
  exact ⟨k, (key_save _ w₁).trans hkey, hk⟩

theorem eq_of_image {bytes : Bytes} (hkey : s.key = some k) (h : s.image w = some bytes) :
    ∃ start rest, Envelope.header k.params k.salt = some start ∧ bytes = start ++ rest := by
  unfold image at h
  rw [hkey] at h
  obtain ⟨v, -, h⟩ := Option.bind_eq_some_iff.mp h
  obtain ⟨_, ⟨⟩, h⟩ := Option.bind_eq_some_iff.mp h
  obtain ⟨header, -, h⟩ := Option.bind_eq_some_iff.mp h
  obtain ⟨start, hstart, heq⟩ := Envelope.eq_of_encode (eq_ok_of_toOption h)
  exact ⟨start, _, hstart, heq⟩

/-- The file of a new vault starts with a header for its parameters, which are valid and fit into it.
-/
theorem read_of_create (hw : w.random.IsFull) (h : (s.create password w).result = .ok ()) :
    ∃ salt rest, s.params.fault? = none ∧ s.params.FitsHeader ∧ Key.IsSalt salt ∧
      (s.create password w).world.disk.read s.path =
        .ok (Envelope.headerStart s.params salt.length ++ (salt ++ rest)) := by
  obtain ⟨k, hkey, hparams, hsalt, hfault⟩ := isKeyed_create hw h
  have hwrites := create_writes password s w
  rw [h] at hwrites
  -- A creation with success stored the image of the session.
  cases hwrites with
  | @stored bytes path image store =>
    obtain ⟨start, rest, hstart, rfl⟩ := eq_of_image hkey image
    have hfits := Envelope.fitsHeader_of_header hstart
    rw [Envelope.header_eq hfits hsalt] at hstart
    cases hstart
    have hread := Disk.read_store store
    rw [List.append_assoc, hparams] at hread
    rw [hparams] at hfault hfits
    exact ⟨k.salt, rest, hfault, hfits, hsalt, hread⟩

/-! ### Reading -/

theorem load_of_isTooCostly {salt rest : Bytes} {p : KeyParams} (hp : p.FitsHeader)
    (hfault : p.fault? = none) (hcost : Envelope.isTooCostly p = true) (hsalt : Key.IsSalt salt)
    (hread : w.disk.read s.path = .ok (Envelope.headerStart p salt.length ++ rest)) :
    s.load w = ⟨.error (.corrupt .costOutOfRange), s, w⟩ := by
  have hdecode := Envelope.decode_of_isTooCostly hp hfault hcost hsalt rest
  unfold load
  simp only [hread, hdecode]

theorem unlock_of_load {e : SessionError} (h : s.load w = ⟨.error e, s, w⟩) (password : Password) :
    s.unlock password w = ⟨.error e, s, w⟩ := by
  rw [unlock, h]

/-- A vault that was created with parameters that cost too much can be neither loaded nor opened. -/
theorem load_of_create (hw : w.random.IsFull) (h : (s.create password w).result = .ok ())
    (hcost : Envelope.isTooCostly s.params = true) {s' : Session} {w' : World}
    (hpath : s'.path = s.path)
    (hread : w'.disk.read s.path = (s.create password w).world.disk.read s.path) :
    s'.load w' = ⟨.error (.corrupt .costOutOfRange), s', w'⟩ := by
  obtain ⟨salt, rest, hfault, hfits, hsalt, hfile⟩ := read_of_create hw h
  exact load_of_isTooCostly hfits hfault hcost hsalt (by rw [hpath, hread, hfile])

theorem exists_text_of_create_ok (h : (s.create password w).result = .ok ()) :
    ∃ text : String, password = text := by
  obtain ⟨s₁, w₁, -, hrekey, -⟩ := create_of_ok h
  obtain ⟨key, hderive, -⟩ | ⟨e, -, heq⟩ := rekey_cases password s w
  · exact Key.exists_text_of_derive hderive
  · cases heq.symm.trans hrekey

theorem load_of_holds {path : Path} {params : KeyParams} (h : Holds w.disk path password v) :
    ∃ e, ((Session.new path params).load w).result = .ok e := by
  obtain ⟨bytes, hread, e, key, contents, v', hdecode, -⟩ := h
  have hread' : w.disk.read (Session.new path params).path = .ok bytes := hread
  unfold load
  simp only [hread', hdecode]
  exact ⟨e, rfl⟩

/-- A vault that was created is read back exactly if its parameters do not cost too much. If they do
not, its file can be loaded, and a new session opens it under the same password to an empty vault; if
they do, the file is refused as damaged, whatever the password. -/
theorem create_readback (hw : w.random.IsFull) (h : (s.create password w).result = .ok ())
    (params : KeyParams) {w' : World}
    (hread : w'.disk.read s.path = (s.create password w).world.disk.read s.path) :
    (Envelope.isTooCostly s.params = false →
      (∃ e, ((Session.new s.path params).load w').result = .ok e) ∧
      ∃ opened w'' v, (Session.new s.path params).unlock password w' = ⟨.ok (), opened, w''⟩ ∧
        opened.vault = some v ∧ v.dump = Vault.empty.dump) ∧
    (Envelope.isTooCostly s.params = true →
      ((Session.new s.path params).load w').result = .error (.corrupt .costOutOfRange) ∧
      ∀ password', ((Session.new s.path params).unlock password' w').result =
        .error (.corrupt .costOutOfRange)) := by
  constructor
  · -- The header shows that the parameters are valid and fit into it; that they do not cost too
    -- much is all that was missing for them to be accepted.
    intro hcost
    obtain ⟨salt, rest, hfault, hfits, -⟩ := read_of_create hw h
    obtain ⟨text, rfl⟩ := exists_text_of_create_ok h
    have hparams : s.params.IsAccepted :=
      ⟨hfault, hcost, hfits.algorithm, hfits.iterations, hfits.memory, hfits.lanes⟩
    obtain ⟨e, heq⟩ | ⟨k, w₁, heq, -, -, hholds⟩ | ⟨e, w₁, heq, -⟩ :=
      create_cases hparams hw text
    · rw [heq] at h
      cases h
    · rw [heq] at hread
      have hholds' := hholds.congr hread
      exact ⟨load_of_holds hholds', State.unlock_of_holds hholds' params⟩
    · rw [heq] at h
      cases h
  · intro hcost
    have hpath : (Session.new s.path params).path = s.path := rfl
    have hload := load_of_create hw h hcost hpath hread
    refine ⟨by rw [hload], fun password' => ?_⟩
    rw [unlock_of_load hload password']

/-- A vault that is cheap to open can be read back. -/
theorem create_readback_cheap :
    let s := Session.new ⟨false, ["vault"]⟩ State.cheapParams
    let o := s.create "open sesame" State.blankWorld
    o.result = .ok () ∧ Envelope.isTooCostly s.params = false ∧
      (∃ e, (s.load o.world).result = .ok e) ∧
      ∃ opened w v, s.unlock "open sesame" o.world = ⟨.ok (), opened, w⟩ ∧
        opened.vault = some v ∧ v.dump = Vault.empty.dump := by
  intro s o
  have hparams : s.params.IsAccepted := State.isAccepted_cheapParams
  have hcreate : o.result = .ok () := create_ok hparams.fault hparams.fitsHeader
    State.isFull_blankWorld rfl (fun _ => ⟨_, rfl⟩) "open sesame"
  exact ⟨hcreate, hparams.cost,
    (create_readback State.isFull_blankWorld hcreate s.params rfl).1 hparams.cost⟩

/-- One iteration more than a header may ask for. -/
def costlyParams : KeyParams :=
  ⟨KeyParams.argon2id, 65, 8, 1⟩

/-- A vault is created under parameters that keep it from ever being read back. -/
theorem create_unreadable :
    let s := Session.new ⟨false, ["v.rgv"]⟩ costlyParams
    let o := s.create "password1" State.blankWorld
    o.result = .ok () ∧
      (s.load o.world).result = .error (.corrupt .costOutOfRange) ∧
      (s.unlock "password1" o.world).result = .error (.corrupt .costOutOfRange) := by
  intro s o
  have hfits : s.params.FitsHeader := ⟨by decide, by decide, by decide, by decide⟩
  have hcreate : o.result = .ok () := create_ok (by decide) hfits State.isFull_blankWorld rfl
    (fun _ => ⟨_, rfl⟩) "password1"
  have hload : s.load o.world = _ := load_of_create State.isFull_blankWorld hcreate (by decide) rfl rfl
  exact ⟨hcreate, by rw [hload], by rw [unlock_of_load hload]⟩

end Session

end Coffer
