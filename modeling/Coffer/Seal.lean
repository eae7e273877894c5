import Coffer.Cipher.Gcm

/-!
Sealing a text under a key of 32 bytes. A nonce is drawn for every sealing and never given by the
caller.
-/

namespace Coffer

/-- A source of random bytes: what the call of a number yields when so many bytes are asked for, and
how many calls there were. -/
structure RandomSource where
  bytes : Nat → Nat → Bytes
  calls : Nat

/-- Draws `size` bytes. -/
def RandomSource.draw (s : RandomSource) (size : Nat) : Bytes × RandomSource :=
  (s.bytes s.calls size, { s with calls := s.calls + 1 })

inductive SealError where
  | badKeySize
  | notAuthentic
deriving DecidableEq, Repr

def SealError.message : SealError → String
  | .badKeySize => "Encryption key must be 32 bytes for AES-256"
  | .notAuthentic => "master password incorrect or vault tampered"

namespace Sealed

def nonceSize : Nat := 12

def tagSize : Nat := Gcm.tagSize

def keySize : Nat := 32

/-- Seals a text. The data are authenticated with it and not kept; none are the same as no bytes. -/
def encrypt (random : RandomSource) (key text : Bytes) (data : Option Bytes) :
    Except SealError ((Bytes × Bytes) × RandomSource) :=
  if key.length ≠ keySize then .error .badKeySize
  else
    let (nonce, random) := random.draw nonceSize
    .ok ((nonce, Gcm.encrypt key nonce (data.getD []) text), random)

/-- Opens a sealed text. Nothing of it is given away unless its tag is the right one. -/
def decrypt (key nonce ciphertext : Bytes) (data : Option Bytes) : Except SealError Bytes :=
  if key.length ≠ keySize then .error .badKeySize
  else if nonce.length ≠ nonceSize ∨ ciphertext.length < tagSize then .error .notAuthentic
  else
    match Gcm.decrypt? key nonce (data.getD []) ciphertext with
    | some text => .ok text
    | none => .error .notAuthentic

end Sealed

end Coffer
