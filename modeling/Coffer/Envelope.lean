import Coffer.Key
import Coffer.Seal

/-!
The bytes of a vault file. A header says how the key is derived, and holds the salt; behind it come
the nonce and the sealed contents. The header is authenticated together with the contents. Older
files have no header: salt, nonce and contents follow each other, and everything else is fixed.
-/

namespace Coffer

/-- A vault file taken apart. Version 0 stands for a file without a header; such files are read and
never written. -/
structure Envelope where
  salt : Bytes
  nonce : Bytes
  ciphertext : Bytes
  params : KeyParams := {}
  version : Int := 1
deriving DecidableEq, Repr

inductive EncodeError where
  | readOnly
  | badNonceSize
  /-- A number is too large for its place in the header. -/
  | headerOverflow
deriving DecidableEq, Repr

def EncodeError.message? : EncodeError → Option String
  | .readOnly => some "legacy envelopes are read-only"
  | .badNonceSize => some ("nonce must be " ++ toString Sealed.nonceSize ++ " bytes")
  | .headerOverflow => none

/-- Why bytes are no vault file, or not the file of a readable vault. -/
inductive CorruptError where
  | notAVault
  | truncated
  | unknownVersion (version : Nat)
  | unknownAlgorithm (algorithm : Nat)
  | badNonceSize
  | saltTooShort
  | badParams (e : KeyError)
  | costOutOfRange
  | unreadablePayload
deriving DecidableEq, Repr

def CorruptError.message : CorruptError → String
  | .notAVault => "not a royalguard vault file"
  | .truncated => "vault file is truncated"
  | .unknownVersion version => "unsupported vault format version " ++ toString version
  | .unknownAlgorithm algorithm => "unknown key derivation id " ++ toString algorithm
  | .badNonceSize => "unexpected nonce size"
  | .saltTooShort => "salt is too short"
  | .badParams e => "bad key derivation parameters: " ++ e.message?.getD ""
  | .costOutOfRange => "key derivation cost out of range"
  | .unreadablePayload => "vault payload is unreadable"

namespace Envelope

/-- What every file with a header starts with. -/
def magic : Bytes :=
  Bytes.ofText "RGVAULT" ++ [0]

def currentVersion : Nat := 1

def headerSize : Nat := 21

/-- The length of the salt of files without a header. -/
def legacySaltSize : Nat := 16

def isLegacy (e : Envelope) : Bool :=
  e.version == 0

/-- A number in `width` bytes, if it fits. -/
def slot (width : Nat) (n : Int) : Option Bytes :=
  if 0 ≤ n ∧ n.toNat < Nat.pow 256 width then some (Bytes.littleEndian width n.toNat) else none

def header (p : KeyParams) (salt : Bytes) : Option Bytes := do
  let algorithm ← slot 1 p.algorithm
  let iterations ← slot 4 p.iterations
  let memory ← slot 4 p.memory
  let lanes ← slot 1 p.lanes
  let saltSize ← slot 1 salt.length
  let nonceSize ← slot 1 Sealed.nonceSize
  return magic ++ Bytes.littleEndian 1 currentVersion ++ algorithm ++ iterations ++ memory ++
    lanes ++ saltSize ++ nonceSize ++ salt

/-- What is authenticated together with the contents, none for a file without a header. -/
def associatedData (e : Envelope) : Except EncodeError (Option Bytes) :=
  if e.isLegacy then .ok none
  else
    match header e.params e.salt with
    | some h => .ok (some h)
    | none => .error .headerOverflow

def encode (e : Envelope) : Except EncodeError Bytes :=
  if e.isLegacy then .error .readOnly
  else if e.nonce.length ≠ Sealed.nonceSize then .error .badNonceSize
  else
    match header e.params e.salt with
    | some h => .ok (h ++ e.nonce ++ e.ciphertext)
    | none => .error .headerOverflow

/-! ### Reading -/

/-- The greatest costs that a header may ask for. It is authenticated only once the key is derived,
so that greater ones are taken for damage. -/
def maxRounds : Int := 10000000
def maxIterations : Int := 64
def maxMemory : Int := 4 * 1024 * 1024
def maxLanes : Int := 64

/-- Whether deriving a key costs more than a header may ask for. -/
def isTooCostly (p : KeyParams) : Bool :=
  if p.algorithm = KeyParams.pbkdf2 then maxRounds < p.iterations
  else maxIterations < p.iterations || maxMemory < p.memory || maxLanes < p.lanes

def number (bs : Bytes) (offset width : Nat) : Nat :=
  Bytes.ofLittleEndian ((bs.drop offset).take width)

/-- Takes a file without a header apart. -/
def decodeLegacy (bs : Bytes) : Except CorruptError Envelope :=
  let nonceEnd := legacySaltSize + Sealed.nonceSize
  if bs.length < nonceEnd + Sealed.tagSize then .error .notAVault
  else .ok {
    salt := bs.take legacySaltSize
    nonce := (bs.drop legacySaltSize).take Sealed.nonceSize
    ciphertext := bs.drop nonceEnd
    params := .legacy
    version := 0 }

/-- Takes a file apart. Its header is checked before anything is derived from it. -/
def decode (bs : Bytes) : Except CorruptError Envelope := do
  if !magic.isPrefixOf bs then return ← decodeLegacy bs
  if bs.length < headerSize then .error .truncated
  let version := number bs 8 1
  let algorithm := number bs 9 1
  let params : KeyParams := ⟨algorithm, number bs 10 4, number bs 14 4, number bs 18 1⟩
  let saltSize := number bs 19 1
  let nonceSize := number bs 20 1
  if version ≠ currentVersion then .error (.unknownVersion version)
  if (algorithm : Int) ≠ KeyParams.argon2id ∧ (algorithm : Int) ≠ KeyParams.pbkdf2 then
    .error (.unknownAlgorithm algorithm)
  if nonceSize ≠ Sealed.nonceSize then .error .badNonceSize
  if saltSize < Key.minSaltSize then .error .saltTooShort
  if let some e := params.fault? then .error (.badParams e)
  if isTooCostly params then .error .costOutOfRange
  let saltEnd := headerSize + saltSize
  let nonceEnd := saltEnd + nonceSize
  if bs.length < nonceEnd + Sealed.tagSize then .error .truncated
  return {
    salt := (bs.drop headerSize).take saltSize
    nonce := (bs.drop saltEnd).take nonceSize
    ciphertext := bs.drop nonceEnd
    params := params
    version := version }

end Envelope

end Coffer
