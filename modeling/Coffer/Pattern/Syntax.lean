import Coffer.Pattern.Error

/-!
The syntax tree of a pattern. Characters are kept as code points, because an escape may name one
that no text contains.
-/

namespace Coffer.Pattern

/-- Switches that change what a pattern means: letter case is ignored, `^` and `$` also match at
line ends, `.` also matches a line end, blanks and comments are skipped, classes are those of ASCII,
classes are those of all scripts, and repetitions are refused. -/
structure Flags where
  ignoreCase : Bool := false
  multiline : Bool := false
  dotAll : Bool := false
  verbose : Bool := false
  ascii : Bool := false
  wide : Bool := false
  template : Bool := false
deriving DecidableEq, Repr, Inhabited

namespace Flags

def union (a b : Flags) : Flags :=
  ⟨a.ignoreCase || b.ignoreCase, a.multiline || b.multiline, a.dotAll || b.dotAll,
    a.verbose || b.verbose, a.ascii || b.ascii, a.wide || b.wide, a.template || b.template⟩

def without (a b : Flags) : Flags :=
  ⟨a.ignoreCase && !b.ignoreCase, a.multiline && !b.multiline, a.dotAll && !b.dotAll,
    a.verbose && !b.verbose, a.ascii && !b.ascii, a.wide && !b.wide, a.template && !b.template⟩

def inter (a b : Flags) : Flags :=
  ⟨a.ignoreCase && b.ignoreCase, a.multiline && b.multiline, a.dotAll && b.dotAll,
    a.verbose && b.verbose, a.ascii && b.ascii, a.wide && b.wide, a.template && b.template⟩

/-- Whether classes are chosen. -/
def hasType (a : Flags) : Bool :=
  a.ascii || a.wide

/-- The flags inside a group that turns some on and some off; choosing classes replaces the choice
made outside. -/
def within (outer on off : Flags) : Flags :=
  let outer := if on.hasType then { outer with ascii := false, wide := false } else outer
  (outer.union on).without off

def ofLetter? : Char → Option Flags
  | 'i' => some { ignoreCase := true }
  | 'm' => some { multiline := true }
  | 's' => some { dotAll := true }
  | 'x' => some { verbose := true }
  | 'a' => some { ascii := true }
  | 'u' => some { wide := true }
  | 't' => some { template := true }
  | _ => none

end Flags

inductive Category where
  | digit
  | space
  | word
deriving DecidableEq, Repr

inductive SetItem where
  | char (code : Nat)
  | range (first last : Nat)
  | category (class_ : Category) (negated : Bool)
deriving DecidableEq, Repr

inductive Anchor where
  | lineStart
  | lineEnd
  | textStart
  | textEnd
  | boundary
  | noBoundary
deriving DecidableEq, Repr

/-- An item of a pattern. A repetition without `max` has no limit. -/
inductive Node where
  | char (code : Nat)
  | notChar (code : Nat)
  | any
  | set (negated : Bool) (items : List SetItem)
  | at (anchor : Anchor)
  | branch (alternatives : List (List Node))
  | group (index : Option Nat) (on off : Flags) (body : List Node)
  | «repeat» (greed : Greed) (min : Nat) (max : Option Nat) (body : List Node)
  | atomic (body : List Node)
  | look (ahead negated : Bool) (body : List Node)
  | reference (group : Nat)
  | conditional (group : Nat) (yes : List Node) (no : List Node)

/-- Repetition counts stay below this one. -/
def countLimit : Nat := 4294967295

def widthLimit : Nat := 0x10000000000000000

/-- The least and the greatest number of characters that something matches. -/
structure Width where
  min : Nat
  max : Nat
deriving DecidableEq, Repr, Inhabited

def Width.add (a b : Width) : Width :=
  ⟨a.min + b.min, a.max + b.max⟩

def Width.or (a b : Width) : Width :=
  ⟨Nat.min a.min b.min, Nat.max a.max b.max⟩

def Width.clamp (w : Width) : Width :=
  ⟨Nat.min w.min widthLimit, Nat.min w.max widthLimit⟩

mutual

/-- The width of one item, given those of the groups by number. -/
def Node.width (groups : List Width) : Node → Width
  | .char _ | .notChar _ | .any | .set .. => ⟨1, 1⟩
  | .at _ | .look .. => ⟨0, 0⟩
  | .branch alternatives => (widthAny groups alternatives).getD ⟨0, 0⟩
  | .group _ _ _ body | .atomic body => widthAll groups body
  | .repeat _ min max body =>
    let w := widthAll groups body
    ⟨w.min * min, match max with
      | none => if w.max = 0 then 0 else widthLimit
      | some m => w.max * m⟩
  | .reference group => groups.getD group ⟨0, 0⟩
  | .conditional _ yes no => (widthAll groups yes).or (widthAll groups no)

def widthAll (groups : List Width) (nodes : List Node) : Width :=
  (widthSum groups nodes).clamp

def widthSum (groups : List Width) : List Node → Width
  | [] => ⟨0, 0⟩
  | n :: rest => (n.width groups).add (widthSum groups rest)

def widthAny (groups : List Width) : List (List Node) → Option Width
  | [] => none
  | [alternative] => some (widthAll groups alternative)
  | alternative :: rest => (widthAny groups rest).map (widthAll groups alternative).or

end

end Coffer.Pattern
