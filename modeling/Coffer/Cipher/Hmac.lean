import Coffer.Cipher.Sha256

/-!
Keyed hashing with SHA-256, and the two ways to get keys from it: expanding good key material to a
purpose, and stretching a password by repetition.
-/

namespace Coffer.Hmac

/-- A key made ready: the states after its inner and its outer block. -/
structure Key where
  inner : Sha256.State
  outer : Sha256.State

/-- The 64 bytes of a key, with zeros at their end; a key that is longer is hashed first. -/
def keyBlock (key : Bytes) : Bytes :=
  let key := if key.length > 64 then Sha256.hash key else key
  key ++ List.replicate (64 - key.length) 0

def Key.ofBytes (key : Bytes) : Key :=
  let block := keyBlock key
  ⟨Sha256.State.initial.absorb (block.map (· ^^^ 0x36)),
    Sha256.State.initial.absorb (block.map (· ^^^ 0x5c))⟩

def Key.tag (k : Key) (message : Bytes) : Sha256.State :=
  k.outer.finish 64 (k.inner.finish 64 message).bytes

def stateBlock (s : Sha256.State) : Array UInt32 :=
  #[s.a, s.b, s.c, s.d, s.e, s.f, s.g, s.h, 0x80000000, 0, 0, 0, 0, 0, 0, 768]

def Key.tagState (k : Key) (s : Sha256.State) : Sha256.State :=
  k.outer.compress (stateBlock (k.inner.compress (stateBlock s)))

def tag (key message : Bytes) : Bytes :=
  ((Key.ofBytes key).tag message).bytes

end Coffer.Hmac

namespace Coffer

/-- A key of 32 bytes for a purpose, from key material that is hard to guess already. No salt is
used. -/
def expandKey (material info : Bytes) : Bytes :=
  Hmac.tag (Hmac.tag [] material) (info ++ [1])

namespace Pbkdf2

/-- Adds up `n` further tags, each of the one before. -/
def stretch (k : Hmac.Key) : Nat → Sha256.State → Sha256.State → Sha256.State
  | 0, _, sum => sum
  | n + 1, last, sum =>
    let next := k.tagState last
    stretch k n next (sum.xor next)

/-- A key of 32 bytes from a password, which takes `iterations` tags to compute. -/
def derive (password salt : Bytes) (iterations : Nat) : Bytes :=
  let k := Hmac.Key.ofBytes password
  let first := k.tag (salt ++ [0, 0, 0, 1])
  (stretch k (iterations - 1) first first).bytes

end Pbkdf2

end Coffer
