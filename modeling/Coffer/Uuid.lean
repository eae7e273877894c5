import Coffer.Bytes
import Coffer.Number.Integer
import Coffer.Text.Quoted

/-!
Record ids: numbers of 128 bits, written as 32 hexadecimal digits in five groups.
-/

namespace Coffer

structure Uuid where
  value : BitVec 128
deriving DecidableEq, Repr

namespace Uuid

def text (u : Uuid) : String :=
  let h := Text.hexPadded 32 u.value.toNat
  String.ofList (h.take 8 ++ '-' :: (h.drop 8).take 4 ++ '-' :: (h.drop 12).take 4 ++
    '-' :: (h.drop 16).take 4 ++ '-' :: h.drop 20)

/-- A text without the parts of it that equal `part`, taken from the left. -/
def removeAll (part : List Char) : List Char → List Char
  | [] => []
  | c :: cs =>
    if part.isPrefixOf (c :: cs) ∧ part ≠ [] then removeAll part (cs.drop (part.length - 1))
    else c :: removeAll part cs
termination_by cs => cs.length

/-- Whether a character may enclose an id. -/
def isBrace (c : Char) : Bool :=
  c == '\x7b' || c == '\x7d'

/-- The id that a text spells: 32 characters that are a number in base 16, besides dashes, the marks
`urn:` and `uuid:`, and braces around the whole. -/
def ofText? (s : String) : Option Uuid := do
  let cs := removeAll "uuid:".toList (removeAll "urn:".toList s.toList)
  let cs := ((cs.dropWhile isBrace).reverse.dropWhile isBrace).reverse
  let cs := cs.filter (· != '-')
  if cs.length ≠ 32 then none
  let n ← Integer.ofText? 16 cs
  return ⟨BitVec.ofNat 128 n.toNat⟩

/-- The id that 16 random bytes make. Six of its bits are fixed, and tell that the others are
random. -/
def ofRandom (bs : Bytes) : Uuid :=
  let n := BitVec.ofNat 128 (Bytes.ofLittleEndian bs)
  ⟨(n &&& ~~~0xF000C000000000000000#128) ||| 0x40008000000000000000#128⟩

end Uuid

/-- A source of ids: what the n-th one is, and how many have been taken. -/
structure IdSource where
  fresh : Nat → Uuid
  issued : Nat

def IdSource.next (s : IdSource) : Uuid × IdSource :=
  (s.fresh s.issued, { s with issued := s.issued + 1 })

end Coffer
