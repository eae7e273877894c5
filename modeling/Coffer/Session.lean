import Coffer.Disk
import Coffer.Envelope
import Coffer.Event
import Coffer.Vault.Payload

/-!
Sessions with a vault file. A session is open while it holds the unlocked vault and the key that the
vault is sealed under. Everything a session does is a step from a session and its surroundings to
new ones, with a result or an error; what an error leaves behind shows in the step.
-/

namespace Coffer

/-- What a session works with: the disk, sources of random bytes and ids, the time, and the events
noted so far. The time is that of a whole step; what an operation does that looks at the clock more
than once is the matter of `Coffer.Proofs.Vault.Course`. -/
structure World where
  disk : Disk
  random : RandomSource
  ids : IdSource
  now : Timestamp
  events : List Event := []

namespace World

def note (w : World) (e : Event) : World :=
  { w with events := w.events ++ [e] }

end World

structure SessionKey where
  bytes : Bytes
  salt : Bytes
  params : KeyParams
deriving DecidableEq, Repr

def SessionKey.erased (k : SessionKey) : SessionKey :=
  { k with bytes := k.bytes.erased }

/-- A session with the file at a place. `params` are for keys to come. `savedRevision` tells which
state of the vault the file holds, none if it holds no state of it. -/
structure Session where
  path : Path
  params : KeyParams
  vault : Option Vault := none
  key : Option SessionKey := none
  savedRevision : Option Nat := none
deriving DecidableEq

inductive FileError.Cause where
  | vaultExists
  | cannotRead (e : DiskError)
  | cannotWrite (e : DiskError)
  | cannotReadImport (e : DiskError)
  | importNotText
deriving DecidableEq, Repr

structure FileError where
  cause : FileError.Cause
  path : String
deriving DecidableEq, Repr

def FileError.Cause.message : FileError.Cause → String
  | .vaultExists => "vault already exists"
  | .cannotRead e => "cannot read vault (" ++ e.reason ++ ")"
  | .cannotWrite e => "cannot write vault (" ++ e.reason ++ ")"
  | .cannotReadImport e => "cannot read import file (" ++ e.reason ++ ")"
  | .importNotText => "import file is not valid UTF-8"

def FileError.message (e : FileError) : String :=
  e.cause.message ++ ": " ++ e.path

inductive SessionError where
  | noVault (path : String)
  | file (e : FileError)
  | corrupt (e : CorruptError)
  | sealed (e : SealError)
  | notUnlocked
  | key (e : KeyError)
  | encode (e : EncodeError)
  | payload (e : PayloadError)
deriving DecidableEq, Repr

def SessionError.message? : SessionError → Option String
  | .noVault path => some ("no vault at " ++ path)
  | .file e => some e.message
  | .corrupt e => some e.message
  | .sealed e => some e.message
  | .notUnlocked => some "vault is not unlocked"
  | .key e => e.message?
  | .encode e => e.message?
  | .payload e => e.message?

/-- What a step comes to: its result or error, and the session and its surroundings after it. -/
structure Outcome (ε α : Type) where
  result : Except ε α
  session : Session
  world : World

namespace Session

def new (path : Path) (params : KeyParams) : Session :=
  { path, params }

def isOpen (s : Session) : Bool :=
  s.vault.isSome && s.key.isSome

/-- Whether an open session holds changes that the file does not. -/
def isDirty (s : Session) : Bool :=
  match s.vault, s.key with
  | some v, some _ => s.savedRevision ≠ some v.revision
  | _, _ => false

def saltSize : Nat := 32

/-- Derives a key from a password and a new salt. The bytes of the key before are overwritten first,
so that they are lost even if the derivation fails. -/
def rekey (password : Password) (s : Session) (w : World) : Outcome KeyError Unit :=
  let (salt, random) := w.random.draw saltSize
  let w := { w with random }
  match Key.derive password salt s.params with
  | .ok bytes => ⟨.ok (), { s with key := some ⟨bytes, salt, s.params⟩ }, w⟩
  | .error e =>
    let lost := s.key.map fun k => { k.erased with salt := salt, params := s.params }
    ⟨.error e, { s with key := lost }, w⟩

/-- Seals the vault under a new nonce and replaces the file. -/
def save (s : Session) (w : World) : Outcome SessionError Unit :=
  match s.vault, s.key with
  | some v, some k =>
    match Envelope.header k.params k.salt with
    | none => ⟨.error (.encode .headerOverflow), s, w⟩
    | some header =>
      match Sealed.encrypt w.random k.bytes v.payload (some header) with
      | .error e => ⟨.error (.sealed e), s, w⟩
      | .ok ((nonce, ciphertext), random) =>
        let w := { w with random }
        match Envelope.encode { salt := k.salt, nonce, ciphertext, params := k.params } with
        | .error e => ⟨.error (.encode e), s, w⟩
        | .ok bytes =>
          match w.disk.store s.path bytes with
          | (.error e, disk) =>
            ⟨.error (.file ⟨.cannotWrite e, s.path.text⟩), s, { w with disk }⟩
          | (.ok (), disk) =>
            ⟨.ok (), { s with savedRevision := some v.revision },
              { w with disk }.note (.fileSaved bytes.length)⟩
  | _, _ => ⟨.error .notUnlocked, s, w⟩

def close (s : Session) : Session :=
  { s with vault := none, key := none, savedRevision := none }

/-- Makes a file with an empty vault. When it cannot be written, the session is closed. -/
def create (password : Password) (s : Session) (w : World) : Outcome SessionError Unit :=
  if w.disk.isPresent s.path then ⟨.error (.file ⟨.vaultExists, s.path.text⟩), s, w⟩
  else
    match s.rekey password w with
    | ⟨.error e, s, w⟩ => ⟨.error (.key e), s, w⟩
    | ⟨.ok (), s, w⟩ =>
      match { s with vault := some .empty }.save w with
      | ⟨.error (.file e), s, w⟩ => ⟨.error (.file e), s.close, w⟩
      | ⟨.error e, s, w⟩ => ⟨.error e, s, w⟩
      | ⟨.ok (), s, w⟩ => ⟨.ok (), s, w.note (.vaultCreated s.path.text)⟩

/-- Reads the file and takes it apart. -/
def load (s : Session) (w : World) : Outcome SessionError Envelope :=
  match w.disk.read s.path with
  | .error .notFound => ⟨.error (.noVault s.path.text), s, w⟩
  | .error e => ⟨.error (.file ⟨.cannotRead e, s.path.text⟩), s, w⟩
  | .ok bytes =>
    match Envelope.decode bytes with
    | .error e => ⟨.error (.corrupt e), s, w⟩
    | .ok envelope => ⟨.ok envelope, s, w.note (.fileLoaded envelope.version bytes.length)⟩

def openEnvelope (password : Password) (e : Envelope) : Except SessionError (Bytes × Bytes) :=
  match Key.derive password e.salt e.params with
  | .error f => .error (.key f)
  | .ok key =>
    match e.associatedData with
    | .error f => .error (.encode f)
    | .ok data =>
      match Sealed.decrypt key e.nonce e.ciphertext data with
      | .error f => .error (.sealed f)
      | .ok contents => .ok (key, contents)

/-- The kinds of errors that contents are taken to be unreadable for. -/
def expectedPayloadErrors : List ErrorKind :=
  [.value, .key, .type, .attribute]

/-- Opens the session with the vault in the file. A file without a header is taken for unsaved: its
vault is given a new key, under which the next save writes it. -/
def unlock (password : Password) (s : Session) (w : World) : Outcome SessionError Unit :=
  match s.load w with
  | ⟨.error e, s, w⟩ => ⟨.error e, s, w⟩
  | ⟨.ok envelope, s, w⟩ =>
    match openEnvelope password envelope with
    | .error (.sealed e) => ⟨.error (.sealed e), s, w.note (.unlockFailed s.path.text)⟩
    | .error e => ⟨.error e, s, w⟩
    | .ok (key, contents) =>
      match Vault.ofPayload w.now envelope.isLegacy contents with
      | .error e =>
        let known := expectedPayloadErrors.contains e.kind
        ⟨.error (if known then .corrupt .unreadablePayload else .payload e), s, w⟩
      | .ok v =>
        let unlocked : Event := .vaultUnlocked s.path.text v.size
        if envelope.isLegacy then
          match s.rekey password w with
          | ⟨.error e, s, w⟩ => ⟨.error (.key e), s, w⟩
          | ⟨.ok (), s, w⟩ =>
            ⟨.ok (), { s with vault := some v, savedRevision := none },
              (w.note (.oldFormat s.path.text)).note unlocked⟩
        else
          ⟨.ok (), { s with
            vault := some v
            key := some ⟨key, envelope.salt, envelope.params⟩
            savedRevision := some v.revision }, w.note unlocked⟩

def verify (password : Password) (s : Session) : Except SessionError Bool :=
  match s.vault, s.key with
  | some _, some k =>
    match Key.derive password k.salt k.params with
    | .ok key => .ok (key == k.bytes)
    | .error e => .error (.key e)
  | _, _ => .error .notUnlocked

/-- Seals the vault under a new password. When the file cannot be written, the old password stays.
-/
def changePassword (password : Password) (s : Session) (w : World) : Outcome SessionError Unit :=
  if !s.isOpen then ⟨.error .notUnlocked, s, w⟩
  else
    let previous := s.key
    match { s with key := none }.rekey password w with
    | ⟨.error e, s, w⟩ => ⟨.error (.key e), s, w⟩
    | ⟨.ok (), s, w⟩ =>
      match s.save w with
      | ⟨.error (.file e), s, w⟩ => ⟨.error (.file e), { s with key := previous }, w⟩
      | ⟨.error e, s, w⟩ => ⟨.error e, s, w⟩
      | ⟨.ok (), s, w⟩ => ⟨.ok (), s, w.note (.passwordChanged s.path.text)⟩

end Session

end Coffer
