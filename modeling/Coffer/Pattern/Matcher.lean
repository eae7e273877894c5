import Coffer.Pattern.Program

/-!
Matching by trying the alternatives in order. Every operation is given what comes after it, and
tries the next alternative when that fails.
-/

namespace Coffer.Pattern

/-- A place in the text, and the ends of the groups matched so far: the start of group `g` is entry
`2 * g`, its end the entry behind it. -/
structure Progress where
  position : Nat
  marks : Array (Option Nat)

/-- What comes after an operation: the end of the match from the given progress on, if there is one.
-/
abbrev Next := Progress → Option Progress

/-- Sets one end of a group. -/
def Progress.mark (s : Progress) (i : Nat) : Progress :=
  { s with marks := s.marks.setIfInBounds i (some s.position) }

def Progress.span? (s : Progress) (group : Nat) : Option (Nat × Nat) :=
  match s.marks.getD (2 * group) none, s.marks.getD (2 * group + 1) none with
  | some a, some b => if a ≤ b then some (a, b) else none
  | _, _ => none

/-- Whether the character at an index is a word character; beyond the text there is none. -/
def wordAt (text : Array Char) (ascii : Bool) (i : Nat) : Bool :=
  match text[i]? with
  | some c => Category.word.has ascii c.toNat
  | none => false

/-- Whether a word character and something else meet at a position. -/
def atBoundary (text : Array Char) (ascii : Bool) (i : Nat) : Bool :=
  (i > 0 && wordAt text ascii (i - 1)) != wordAt text ascii i

/-- Whether a position is the place asked for. An empty text has neither word boundaries nor places
without one. -/
def Place.holds (text : Array Char) (i : Nat) : Place → Bool
  | .textStart => i == 0
  | .textEnd => i == text.size
  | .lineStart => i == 0 || text[i - 1]? == some '\n'
  | .lineEnd => i == text.size || text[i]? == some '\n'
  | .lastLineEnd => i == text.size || (i + 1 == text.size && text[i]? == some '\n')
  | .boundary ascii => text.size > 0 && atBoundary text ascii i
  | .noBoundary ascii => text.size > 0 && !atBoundary text ascii i

/-- Compares the text at `i` with the `n` characters from `a` on. -/
def sameText (text : Array Char) (rule : CaseRule) (a i : Nat) : Nat → Bool
  | 0 => true
  | n + 1 =>
    match text[a]?, text[i]? with
    | some c, some d =>
      rule.lower c.toNat == rule.lower d.toNat && sameText text rule (a + 1) (i + 1) n
    | _, _ => false

/-- Whether `n` items are fewer than a repetition may have. -/
def below (max : Option Nat) (n : Nat) : Bool :=
  match max with
  | none => true
  | some m => n < m

/-- Repeats as often as possible, then goes on; on failure goes on after fewer items. After the
required number of items, one that took nothing is not repeated. `last` is where the last optional
item started. -/
def greedyLoop (body : Next → Next) (min : Nat) (max : Option Nat) (next : Next) :
    Nat → Nat → Option Nat → Next
  | 0, _, _, s => next s
  | fuel + 1, n, last, s =>
    if n < min then body (greedyLoop body min max next fuel (n + 1) last) s
    else if below max n && last != some s.position then
      match body (greedyLoop body min max next fuel (n + 1) (some s.position)) s with
      | some r => some r
      | none => next s
    else next s

/-- Goes on as soon as possible; on failure repeats once more. -/
def lazyLoop (body : Next → Next) (min : Nat) (max : Option Nat) (next : Next) :
    Nat → Nat → Option Nat → Next
  | 0, _, _, s => next s
  | fuel + 1, n, last, s =>
    if n < min then body (lazyLoop body min max next fuel (n + 1) last) s
    else
      match next s with
      | some r => some r
      | none =>
        if below max n && last != some s.position then
          body (lazyLoop body min max next fuel (n + 1) (some s.position)) s
        else none

/-- Repeats as often as possible, each item in the first way it matches, and keeps to that. -/
def possessiveLoop (body : Next → Next) (min : Nat) (max : Option Nat) :
    Nat → Nat → Option Nat → Next
  | 0, _, _, s => some s
  | fuel + 1, n, last, s =>
    if n < min then (body some s).bind (possessiveLoop body min max fuel (n + 1) last)
    else if below max n && last != some s.position then
      match body some s with
      | some r => possessiveLoop body min max fuel (n + 1) (some s.position) r
      | none => some s
    else some s

mutual

def Op.run (text : Array Char) : Op → Next → Next
  | .test t, next, s =>
    match text[s.position]? with
    | some c => if t.accepts c then next { s with position := s.position + 1 } else none
    | none => none
  | .place p, next, s => if p.holds text s.position then next s else none
  | .branch alternatives, next, s => runAny text alternatives next s
  | .capture g body, next, s =>
    runAll text body (fun r => next (r.mark (2 * g + 1))) (s.mark (2 * g))
  | .repeat greed min max body, next, s =>
    let fuel := min + text.size + 2
    match greed with
    | .greedy => greedyLoop (runAll text body) min max next fuel 0 none s
    | .lazy => lazyLoop (runAll text body) min max next fuel 0 none s
    | .possessive => (possessiveLoop (runAll text body) min max fuel 0 none s).bind next
  | .atomic body, next, s => (runAll text body some s).bind next
  | .look back negated body, next, s =>
    let found :=
      if s.position < back then none
      else runAll text body some { s with position := s.position - back }
    match found, negated with
    | some r, false => next { r with position := s.position }
    | none, true => next s
    | _, _ => none
  | .reference rule g, next, s =>
    match s.span? g with
    | some (a, b) =>
      if sameText text rule a s.position (b - a) then
        next { s with position := s.position + (b - a) }
      else none
    | none => none
  | .conditional g yes no, next, s =>
    if (s.span? g).isSome then runAll text yes next s else runAll text no next s

/-- Matches a sequence of operations and what comes after it. -/
def runAll (text : Array Char) : List Op → Next → Next
  | [], next, s => next s
  | op :: rest, next, s => op.run text (runAll text rest next) s

/-- Matches the first alternative with which the rest matches too. -/
def runAny (text : Array Char) : List (List Op) → Next → Next
  | [], _, _ => none
  | alternative :: rest, next, s =>
    match runAll text alternative next s with
    | some r => some r
    | none => runAny text rest next s

end

def Program.matchesAt (p : Program) (text : Array Char) (i : Nat) : Bool :=
  (runAll text p.ops some ⟨i, Array.replicate (2 * p.groups) none⟩).isSome

def Program.canStart (p : Program) (text : Array Char) (i : Nat) : Bool :=
  match p.start with
  | none => true
  | some t =>
    match text[i]? with
    | some c => t.accepts c
    | none => false

def Program.search (p : Program) (text : List Char) : Bool :=
  let text := text.toArray
  (List.range (text.size + 1)).any fun i => p.canStart text i && p.matchesAt text i

end Coffer.Pattern
