import Coffer.Cipher.Argon2id
import Coffer.Cipher.Hmac
import Coffer.ErrorKind

/-!
From a master password to a key. The parameters say which of two ways is taken and what it costs;
they are stored with the vault, so they are checked before they are used. A password is a sequence of
code points. Those of characters have bytes; halves of surrogate pairs, which a terminal can hand on
as well, have none.
-/

namespace Coffer

/-- A code point: a character, or the half of a surrogate pair at an offset from the first one. -/
inductive CodePoint where
  | char (c : Char)
  | surrogate (offset : Fin 0x800)
deriving DecidableEq, Repr

def CodePoint.char? : CodePoint → Option Char
  | char c => some c
  | surrogate _ => none

structure Password where
  points : List CodePoint
deriving DecidableEq, Repr

namespace Password

def ofText (s : String) : Password :=
  ⟨s.toList.map .char⟩

instance : Coe String Password :=
  ⟨ofText⟩

/-- The text that a password is, none if one of its code points is no character. -/
def text? (p : Password) : Option String :=
  (p.points.mapM CodePoint.char?).map String.ofList

end Password

/-- The way a key is derived, as a number, and its costs. Argon2id (1) takes all three of them, the
last two being its memory in KiB and its lanes; PBKDF2 (2) takes only the iterations. Numbers that
mean nothing are possible, because a file may hold them. -/
structure KeyParams where
  algorithm : Int := 1
  iterations : Int := 2
  memory : Int := 102400
  lanes : Int := 4
deriving DecidableEq, Repr

/-- Why no key can be derived. The last three are refusals that have no complaint of their own: a
number that no such derivation can take, a salt that is too short, and a password without bytes. -/
inductive KeyError where
  | noIterations
  | memoryTooSmall
  | noRounds
  | unknownAlgorithm (algorithm : Int)
  | costTooLarge
  | saltTooShort
  | notText
deriving DecidableEq, Repr

def KeyError.message? : KeyError → Option String
  | .noIterations => some "Argon2id needs at least one iteration and one lane"
  | .memoryTooSmall => some "Argon2id memory cost must be at least 8 KiB per lane"
  | .noRounds => some "PBKDF2 needs at least one iteration"
  | .unknownAlgorithm algorithm => some ("unknown KDF algorithm " ++ toString algorithm)
  | .costTooLarge | .saltTooShort | .notText => none

def KeyError.kind : KeyError → ErrorKind
  | .noIterations | .memoryTooSmall | .noRounds | .unknownAlgorithm _ | .saltTooShort => .value
  | .costTooLarge => .overflow
  | .notText => .encoding

namespace KeyParams

def argon2id : Int := 1

def pbkdf2 : Int := 2

/-- The parameters of files without a header. -/
def legacy : KeyParams :=
  ⟨pbkdf2, 100000, 0, 0⟩

/-- What keeps the parameters from being used, if anything does. -/
def fault? (p : KeyParams) : Option KeyError :=
  if p.algorithm = argon2id then
    if p.iterations < 1 ∨ p.lanes < 1 then some .noIterations
    else if p.memory < 8 * p.lanes then some .memoryTooSmall
    else none
  else if p.algorithm = pbkdf2 then
    if p.iterations < 1 then some .noRounds else none
  else some (.unknownAlgorithm p.algorithm)

def validate (p : KeyParams) : Except KeyError Unit :=
  match p.fault? with
  | some e => .error e
  | none => .ok ()

end KeyParams

namespace Key

def size : Nat := 32

/-- The shortest salt that Argon2id takes. -/
def minSaltSize : Nat := 8

/-- The costs that Argon2id takes are numbers of 32 bits. -/
def costLimit : Int := 0x100000000

/-- What the stretched password is expanded for. -/
def purpose : Bytes :=
  Bytes.ofText "royalguard vault encryption"

/-- The bytes of a password. -/
def secret (password : Password) : Except KeyError Bytes :=
  match password.text? with
  | some text => .ok (Bytes.ofText text)
  | none => .error .notText

/-- The key of a password and a salt. -/
def derive (password : Password) (salt : Bytes) (p : KeyParams) : Except KeyError Bytes := do
  p.validate
  if p.algorithm = KeyParams.pbkdf2 then
    return Pbkdf2.derive (← secret password) salt p.iterations.toNat
  if p.iterations ≥ costLimit ∨ p.memory ≥ costLimit ∨ p.lanes ≥ costLimit then .error .costTooLarge
  if salt.length < minSaltSize then .error .saltTooShort
  let stretched := Argon2id.derive ⟨p.iterations.toNat, p.memory.toNat, p.lanes.toNat⟩ size
    (← secret password) salt
  return expandKey stretched purpose

end Key

end Coffer
