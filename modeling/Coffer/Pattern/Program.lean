import Coffer.Pattern.CharTest

/-!
A pattern made ready for matching: flags are resolved item by item, and look-behinds know how far
back they start.
-/

namespace Coffer.Pattern

/-- A place that matching can ask for, with the flags that bear on it. -/
inductive Place where
  | textStart
  | textEnd
  | lineStart
  | lineEnd
  /-- The end of the text, or the line end that closes it. -/
  | lastLineEnd
  | boundary (ascii : Bool)
  | noBoundary (ascii : Bool)
deriving DecidableEq, Repr

inductive Op where
  | test (t : CharTest)
  | place (p : Place)
  | branch (alternatives : List (List Op))
  | capture (group : Nat) (body : List Op)
  | «repeat» (greed : Greed) (min : Nat) (max : Option Nat) (body : List Op)
  | atomic (body : List Op)
  /-- The body has to match (or must not match) from `back` characters before this place. -/
  | look (back : Nat) (negated : Bool) (body : List Op)
  | reference (rule : CaseRule) (group : Nat)
  | conditional (group : Nat) (yes no : List Op)

def Flags.caseRule (f : Flags) : CaseRule :=
  if !f.ignoreCase then .exact else if f.ascii then .ascii else .wide

def Flags.place (f : Flags) : Anchor → Place
  | .lineStart => if f.multiline then .lineStart else .textStart
  | .lineEnd => if f.multiline then .lineEnd else .lastLineEnd
  | .textStart => .textStart
  | .textEnd => .textEnd
  | .boundary => .boundary f.ascii
  | .noBoundary => .noBoundary f.ascii

/-- The furthest that a look-behind can start back. -/
def maxLookbehind : Nat := 4294967295

mutual

/-- The operations of one item. -/
def Node.ops (groups : List Width) (f : Flags) : Node → Except Error (List Op)
  | .char code => return [.test (.char f.caseRule code false)]
  | .notChar code => return [.test (.char f.caseRule code true)]
  | .any => return [.test (if f.dotAll then .any else .notNewline)]
  | .set negated items => return [.test (.set f.caseRule f.ascii negated items)]
  | .at anchor => return [.place (f.place anchor)]
  | .branch alternatives => return [.branch (← opsAny groups f alternatives)]
  | .group none on off body => opsAll groups (f.within on off) body
  | .group (some g) on off body => return [.capture g (← opsAll groups (f.within on off) body)]
  | .repeat greed min max body => do
    if f.template then .error (.malformed (.templateRepeat greed) none)
    return [.repeat greed min max (← opsAll groups f body)]
  | .atomic body => return [.atomic (← opsAll groups f body)]
  | .look true negated body => return [.look 0 negated (← opsAll groups f body)]
  | .look false negated body => do
    let w := widthAll groups body
    if w.min > maxLookbehind then .error (.malformed .lookbehindTooFar none)
    if w.min ≠ w.max then .error (.malformed .lookbehindWidth none)
    return [.look w.min negated (← opsAll groups f body)]
  | .reference g => return [.reference f.caseRule g]
  | .conditional g yes no => return [.conditional g (← opsAll groups f yes) (← opsAll groups f no)]

/-- The operations of a sequence. -/
def opsAll (groups : List Width) (f : Flags) : List Node → Except Error (List Op)
  | [] => return []
  | n :: rest => return (← n.ops groups f) ++ (← opsAll groups f rest)

/-- The operations of every alternative. -/
def opsAny (groups : List Width) (f : Flags) : List (List Node) → Except Error (List (List Op))
  | [] => return []
  | alternative :: rest => return (← opsAll groups f alternative) :: (← opsAny groups f rest)

end

/-- Whether a part of a set has no character with letter case, as far as the flags look at case. -/
def SetItem.isCaseless (f : Flags) : SetItem → Bool
  | .category .. => true
  | .char code => !(f.ignoreCase && cased code)
  | .range first last =>
    !f.ignoreCase ||
      (last ≤ 0xFFFF && (List.range (last + 1 - first)).all fun i => !cased (first + i))
where
  /-- Whether a code point has letter case. -/
  cased (n : Nat) : Bool :=
    if f.ascii then Text.isAsciiLetter (Char.ofNat n) else Text.isCasedCode n

mutual

/-- The set of characters that a match can start with, when a pattern opens with a set whose test
does not depend on letter case. The set is looked up under the flags of the whole pattern, whatever
flags are in force where it stands. -/
def Node.startSet (whole f : Flags) : Node → Option CharTest
  | .set negated items =>
    if items.all (·.isCaseless f) then some (.set .exact whole.ascii negated items) else none
  | .group _ on off body => startSetOf whole (f.within on off) body
  | _ => none

/-- The set that the first item of a sequence opens with. -/
def startSetOf (whole f : Flags) : List Node → Option CharTest
  | [] => none
  | n :: _ => n.startSet whole f

end

/-- A pattern ready for matching: its operations, the number of its groups, and the set that every
match starts with, if one is known. -/
structure Program where
  ops : List Op
  groups : Nat
  start : Option CharTest

def Program.ofNodes (nodes : List Node) (flags : Flags) (groups : List Width) :
    Except Error Program := do
  return ⟨← opsAll groups flags nodes, groups.length, startSetOf flags flags nodes⟩

end Coffer.Pattern
