import Coffer.Proofs.Session.Readback

/-!
Opening a session fails closed. Whatever the file holds, the session is opened, or it is refused in
one of a few ways (`Refusal`) and stays exactly as it was; and no key is derived from parameters
that have not been checked. A password that is no text is the one thing that is not refused like
that: where there is a file that can be taken apart, its error gets through as it is
(`unlock_fails_closed`).

That contents which hold no vault are refused rests on the kinds of errors that are expected of them:
there is no other kind (`isExpected_kind`).

The parameters of a derivation do not show in its outcome, so opening is also run as a `Traced`
computation, which keeps them. `Traced.Yields x a` says that `x` comes to `a` and that the parameters
of all keys derived on the way are accepted; `yields_unlock` shows it for opening, step by step.
-/

namespace Coffer

/-- A computation with the parameters of the keys that were derived in it, in order. -/
structure Traced (α : Type) where
  value : α
  derivations : List KeyParams

namespace Traced

instance : Monad Traced where
  pure a := ⟨a, []⟩
  bind x f := ⟨(f x.value).value, x.derivations ++ (f x.value).derivations⟩

/-- The key of a password and a salt. -/
def derive (password : Password) (salt : Bytes) (p : KeyParams) : Traced (Except KeyError Bytes) :=
  ⟨Key.derive password salt p, [p]⟩

variable {α β : Type}

/-- The computation comes to a value, and derives keys from accepted parameters only. -/
structure Yields (x : Traced α) (a : α) : Prop where
  value : x.value = a
  accepted : ∀ p ∈ x.derivations, p.IsAccepted

theorem Yields.pure (a : α) : Yields (pure a) a :=
  ⟨rfl, nofun⟩

theorem Yields.bind {x : Traced α} {f : α → Traced β} {a : α} {b : β} (hx : Yields x a)
    (hf : Yields (f a) b) : Yields (x >>= f) b := by
  obtain ⟨rfl, hx⟩ := hx
  refine ⟨hf.value, fun p hp => ?_⟩
  obtain hp | hp := List.mem_append.mp hp
  · exact hx p hp
  · exact hf.accepted p hp

theorem yields_derive (password : Password) (salt : Bytes) {p : KeyParams} (hp : p.IsAccepted) :
    Yields (derive password salt p) (Key.derive password salt p) :=
  ⟨rfl, List.forall_mem_singleton.mpr hp⟩

end Traced

namespace Session

variable {s : Session} {w : World}

/-! ### Opening, traced -/

def rekeyTraced (password : Password) (s : Session) (w : World) : Traced (Outcome KeyError Unit) := do
  let (salt, random) := w.random.draw saltSize
  let w := { w with random }
  match ← Traced.derive password salt s.params with
  | .ok bytes => return ⟨.ok (), { s with key := some ⟨bytes, salt, s.params⟩ }, w⟩
  | .error e =>
    let lost := s.key.map fun k => { k.erased with salt := salt, params := s.params }
    return ⟨.error e, { s with key := lost }, w⟩

def openEnvelopeTraced (password : Password) (e : Envelope) :
    Traced (Except SessionError (Bytes × Bytes)) := do
  match ← Traced.derive password e.salt e.params with
  | .error f => return .error (.key f)
  | .ok key =>
    match e.associatedData with
    | .error f => return .error (.encode f)
    | .ok data =>
      match Sealed.decrypt key e.nonce e.ciphertext data with
      | .error f => return .error (.sealed f)
      | .ok contents => return .ok (key, contents)

def unlockTraced (password : Password) (s : Session) (w : World) :
    Traced (Outcome SessionError Unit) := do
  match s.load w with
  | ⟨.error e, s, w⟩ => return ⟨.error e, s, w⟩
  | ⟨.ok envelope, s, w⟩ =>
    match ← openEnvelopeTraced password envelope with
    | .error (.sealed e) => return ⟨.error (.sealed e), s, w.note (.unlockFailed s.path.text)⟩
    | .error e => return ⟨.error e, s, w⟩
    | .ok (key, contents) =>
      match Vault.ofPayload w.now envelope.isLegacy contents with
      | .error e =>
        let known := expectedPayloadErrors.contains e.kind
        return ⟨.error (if known then .corrupt .unreadablePayload else .payload e), s, w⟩
      | .ok v =>
        let unlocked : Event := .vaultUnlocked s.path.text v.size
        if envelope.isLegacy then
          match ← s.rekeyTraced password w with
          | ⟨.error e, s, w⟩ => return ⟨.error (.key e), s, w⟩
          | ⟨.ok (), s, w⟩ =>
            return ⟨.ok (), { s with vault := some v, savedRevision := none },
              (w.note (.oldFormat s.path.text)).note unlocked⟩
        else
          return ⟨.ok (), { s with
            vault := some v
            key := some ⟨key, envelope.salt, envelope.params⟩
            savedRevision := some v.revision }, w.note unlocked⟩

theorem yields_rekey (hp : s.params.IsAccepted) (password : Password) (w : World) :
    (s.rekeyTraced password w).Yields (s.rekey password w) := by
  unfold rekeyTraced rekey
  generalize w.random.draw saltSize = drawn
  refine (Traced.yields_derive password drawn.1 hp).bind ?_
  dsimp only
  cases Key.derive password drawn.1 s.params with
  | ok bytes => exact .pure _
  | error e => exact .pure _

theorem yields_openEnvelope {e : Envelope} (hp : e.params.IsAccepted) (password : Password) :
    (openEnvelopeTraced password e).Yields (openEnvelope password e) := by
  refine (Traced.yields_derive password e.salt hp).bind ?_
  unfold openEnvelope
  cases Key.derive password e.salt e.params with
  | error f => exact .pure _
  | ok key =>
    dsimp only
    cases e.associatedData with
    | error f => exact .pure _
    | ok data =>
      dsimp only
      cases Sealed.decrypt key e.nonce e.ciphertext data with
      | error f => exact .pure _
      | ok contents => exact .pure _

/-- The traced way to open a session comes to the same, and derives keys from accepted parameters
only: those in the file have been checked by then, and those of the session are the other ones. -/
theorem yields_unlock (hp : s.params.IsAccepted) (password : Password) (w : World) :
    (s.unlockTraced password w).Yields (s.unlock password w) := by
  unfold unlockTraced unlock
  obtain ⟨e, hload, -⟩ | ⟨bytes, envelope, -, hdecode, hload⟩ := load_cases s w
  · rw [hload]
    exact .pure _
  · rw [hload]
    dsimp only
    -- The file has been taken apart, which checks its parameters, before the first derivation.
    obtain ⟨hparams, -⟩ := Envelope.accepted_of_decode hdecode
    refine (yields_openEnvelope hparams password).bind ?_
    generalize w.note (.fileLoaded envelope.version bytes.length) = w'
    obtain e | ⟨key, contents⟩ := openEnvelope password envelope
    · cases e <;> exact .pure _
    · dsimp only
      cases Vault.ofPayload w'.now envelope.isLegacy contents with
      | error e => exact .pure _
      | ok v =>
        dsimp only
        cases envelope.isLegacy with
        | false => exact .pure _
        | true =>
          refine (yields_rekey hp password w').bind ?_
          cases s.rekey password w' with
          | mk result s' w'' => cases result <;> exact .pure _

/-! ### Opened or refused -/

/-- A file that can be read, taken apart, opened and loaded opens the session. -/
theorem unlock_eq_ok (hp : s.params.IsAccepted) (hw : w.random.IsFull) {password : Password}
    {bytes key contents : Bytes} {e : Envelope} {v : Vault} (hread : w.disk.read s.path = .ok bytes)
    (hdecode : Envelope.decode bytes = .ok e) (hopen : openEnvelope password e = .ok (key, contents))
    (hpayload : Vault.ofPayload w.now e.isLegacy contents = .ok v) :
    ∃ s' w', s.unlock password w = ⟨.ok (), s', w'⟩ ∧ s'.vault = some v := by
  cases hlegacy : e.isLegacy with
  | false =>
    rw [hlegacy] at hpayload
    obtain ⟨w', hunlock⟩ := unlock_current hread hdecode hlegacy hopen hpayload
    exact ⟨_, w', hunlock, rfl⟩
  | true =>
    rw [hlegacy] at hpayload
    obtain ⟨k, w', hunlock, -⟩ := unlock_legacy hp hw hread hdecode hlegacy hopen hpayload
    exact ⟨_, w', hunlock, rfl⟩

/-- A password that no key can be made of, and a file to open with it. -/
def Strays (password : Password) (s : Session) (w : World) : Prop :=
  password.text? = none ∧
    ∃ bytes e, w.disk.read s.path = .ok bytes ∧ Envelope.decode bytes = .ok e

theorem not_refusal_key (e : KeyError) : ¬ Refusal (.key e) := by
  intro h
  cases h

/-- What opening a session comes to: it is open, or it is as it was, with an error that is a refusal
unless the password strays. The disk is not touched. -/
theorem unlock_ends (hp : s.params.IsAccepted) (hw : w.random.IsFull) (password : Password) :
    (¬ Strays password s w ∧ ∃ s' w', s.unlock password w = ⟨.ok (), s', w'⟩ ∧ s'.isOpen = true ∧
      w'.disk = w.disk) ∨
    (¬ Strays password s w ∧ ∃ e w', s.unlock password w = ⟨.error e, s, w'⟩ ∧ Refusal e ∧
      w'.disk = w.disk) ∨
    Strays password s w ∧ ∃ w', s.unlock password w = ⟨.error (.key .notText), s, w'⟩ ∧
      w'.disk = w.disk := by
  obtain ⟨text, rfl⟩ | hnone := password.text_or_not
  · have htext : ¬ Strays text s w := by
      rintro ⟨hnone, -⟩
      cases (Password.text?_ofText text).symm.trans hnone
    obtain ⟨e, w', heq, he, -, hdisk⟩ | ⟨v, k, saved, w', heq, -, -, -, hdisk, -⟩ :=
      unlock_cases hp hw text
    · exact .inr (.inl ⟨htext, e, w', heq, he, hdisk⟩)
    · exact .inl ⟨htext, _, w', heq, rfl, hdisk⟩
  · obtain ⟨e, heq, he⟩ | ⟨bytes, envelope, hread, hdecode, heq⟩ := unlock_of_not_text hnone s w
    · refine .inr (.inl ⟨?_, e, w, heq, he, rfl⟩)
      -- Had there been a file to open, the error would not be a refusal.
      rintro ⟨-, bytes, envelope, hread, hdecode⟩
      rw [unlock_eq_notText hnone hread hdecode] at heq
      obtain rfl : SessionError.key .notText = e :=
        Except.error.inj (congrArg Outcome.result heq)
      exact not_refusal_key _ he
    · exact .inr (.inr ⟨⟨hnone, bytes, envelope, hread, hdecode⟩, _, heq, rfl⟩)

/-- Whatever the file holds, if there is one, and whatever the password and the session, opening it
leaves it open, or ends in an error and leaves it exactly as it was; the disk is not touched. The
error is a refusal, except exactly if the password is no text and there is a file that can be taken
apart. It is not refused where the file can be read, taken apart, opened and loaded. Every key is
derived from accepted parameters. -/
theorem unlock_fails_closed (hp : s.params.IsAccepted) (hw : w.random.IsFull)
    (password : Password) :
    ((∃ s' w', s.unlock password w = ⟨.ok (), s', w'⟩ ∧ s'.isOpen = true ∧ w'.disk = w.disk) ∨
      ∃ e w', s.unlock password w = ⟨.error e, s, w'⟩ ∧ (Refusal e ∨ e = .key .notText) ∧
        w'.disk = w.disk) ∧
    ((∃ e, (s.unlock password w).result = .error e ∧ ¬ Refusal e) ↔
      password.text? = none ∧
        ∃ bytes e, w.disk.read s.path = .ok bytes ∧ Envelope.decode bytes = .ok e) ∧
    (∀ bytes e key contents v, w.disk.read s.path = .ok bytes → Envelope.decode bytes = .ok e →
      openEnvelope password e = .ok (key, contents) →
      Vault.ofPayload w.now e.isLegacy contents = .ok v →
      ∃ s' w', s.unlock password w = ⟨.ok (), s', w'⟩ ∧ s'.vault = some v) ∧
    (s.unlockTraced password w).value = s.unlock password w ∧
    ∀ p ∈ (s.unlockTraced password w).derivations,
      p.fault? = none ∧ Envelope.isTooCostly p = false := by
  have hyields := yields_unlock hp password w
  refine ⟨?_, ?_, ?_, hyields.value, ?_⟩
  · obtain ⟨-, hok⟩ | ⟨-, e, w', heq, he, hdisk⟩ | ⟨-, w', heq, hdisk⟩ := unlock_ends hp hw password
    · exact .inl hok
    · exact .inr ⟨e, w', heq, .inl he, hdisk⟩
    · exact .inr ⟨_, w', heq, .inr rfl, hdisk⟩
  · change _ ↔ Strays password s w
    obtain ⟨hstays, s', w', heq, -⟩ | ⟨hstays, f, w', heq, hf, -⟩ | ⟨hstrays, w', heq, -⟩ :=
      unlock_ends hp hw password
    · rw [heq]
      exact ⟨nofun, fun h => absurd h hstays⟩
    · rw [heq]
      refine ⟨?_, fun h => absurd h hstays⟩
      rintro ⟨_, ⟨⟩, he⟩
      exact absurd hf he
    · rw [heq]
      exact ⟨fun _ => hstrays, fun _ => ⟨_, rfl, not_refusal_key _⟩⟩
  · intro bytes e key contents v hread hdecode hopen hpayload
    exact unlock_eq_ok hp hw hread hdecode hopen hpayload
  · intro p hp
    have haccepted := hyields.accepted p hp
    exact ⟨haccepted.fault, haccepted.cost⟩

def openToEmpty : Session :=
  { path := ⟨false, ["vault"]⟩
    params := State.cheapParams
    vault := some .empty
    key := some ⟨[], [], State.cheapParams⟩
    savedRevision := some 0 }

/-- Surroundings in which three bytes have taken the place of its file. -/
def tampered : World :=
  { State.blankWorld with disk := ⟨[(⟨false, ["vault"]⟩, .file [1, 2, 3])], false⟩ }

theorem unlock_fails_closed_tampered :
    openToEmpty.params.IsAccepted ∧ tampered.random.IsFull ∧
    ∃ w', openToEmpty.unlock "open sesame" tampered =
        ⟨.error (.corrupt .notAVault), openToEmpty, w'⟩ ∧ w'.disk = tampered.disk := by
  obtain ⟨houtcome, -⟩ := unlock_fails_closed (s := openToEmpty) (w := tampered)
    State.isAccepted_cheapParams State.isFull_blankWorld "open sesame"
  have hresult : (openToEmpty.unlock "open sesame" tampered).result =
    .error (.corrupt .notAVault) := by decide +kernel
  refine ⟨State.isAccepted_cheapParams, State.isFull_blankWorld, ?_⟩
  obtain ⟨s', w', heq, -⟩ | ⟨e, w', heq, -, hdisk⟩ := houtcome
  · rw [heq] at hresult
    contradiction
  · rw [heq] at hresult
    cases hresult
    exact ⟨w', heq, hdisk⟩

/-- The half of a surrogate pair. -/
def surrogate : Password :=
  ⟨[.surrogate 0x4E9]⟩

/-- A vault that was created is opened with half of a surrogate pair for a password, and the error is
not that of a wrong one. -/
theorem unlock_strays_surrogate :
    let s := Session.new ⟨false, ["v.rgv"]⟩ State.cheapParams
    let created := s.create "password1" State.blankWorld
    created.result = .ok () ∧
      (s.unlock surrogate created.world).result = .error (.key .notText) ∧
      ¬ Refusal (.key .notText) := by
  intro s created
  have hparams : s.params.IsAccepted := State.isAccepted_cheapParams
  have hcreate : created.result = .ok () := create_ok hparams.fault hparams.fitsHeader
    State.isFull_blankWorld rfl (fun _ => ⟨_, rfl⟩) "password1"
  obtain ⟨k, w', heq, -, -, bytes, hread, e, -, -, -, hdecode, -⟩ :
      ∃ k w', created = ⟨.ok (), { s with
          vault := some .empty, key := some k, savedRevision := some 0 }, w'⟩ ∧
        k.IsOf "password1" ∧ State.blankWorld.Continues w' ∧
        Holds w'.disk s.path "password1" .empty := by
    obtain ⟨e, heq⟩ | hok | ⟨e, w', heq, -⟩ :=
      create_cases hparams State.isFull_blankWorld "password1"
    · cases (congrArg Outcome.result heq).symm.trans hcreate
    · exact hok
    · cases (congrArg Outcome.result heq).symm.trans hcreate
  refine ⟨hcreate, ?_, not_refusal_key _⟩
  rw [heq, unlock_eq_notText rfl hread hdecode]

end Session

end Coffer
