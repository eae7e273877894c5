import Coffer.Number.Integer
import Coffer.Pattern.Escape
import Coffer.Text.Identifier
import Coffer.Text.Letter

/-!
Reading a pattern. A pattern is a choice between sequences of items; an item is a character, a set,
a place or a group, and a repetition applies to the item before it.
-/

namespace Coffer.Pattern

/-! ### Character sets -/

def Escape.setItem : Escape → SetItem
  | .char code => .char code
  | .category class_ negated => .category class_ negated
  | .anchor _ | .reference _ => .char 0

/-- The items without later copies of earlier ones. -/
def distinct {α : Type} [BEq α] (items : List α) : List α :=
  items.foldl (fun seen x => if seen.contains x then seen else seen ++ [x]) []

def setPart (s : Symbol) : Reader SetItem := do
  match s with
  | .plain c => return .char c.toNat
  | .escaped c => return (← setEscape ((← tell) - 2) c).setItem

/-- The parts of a set up to its closing bracket; one directly behind the opening is a part. The set
started at `here`; the budget bounds the number of parts. -/
def setItems (here : Nat) : Nat → List SetItem → Reader (List SetItem)
  | 0, items => return items
  | budget + 1, items => do
    match ← take with
    | none => failAt .unterminatedSet here
    | some first =>
      if first = .plain ']' ∧ !items.isEmpty then return items
      let low ← setPart first
      if ← accept '-' then
        match ← take with
        | none => failAt .unterminatedSet here
        | some last =>
          if last = .plain ']' then return items ++ [low, .char '-'.toNat]
          let high ← setPart last
          let back := first.length + 1 + last.length
          match low, high with
          | .char a, .char b =>
            if b < a then failBack (.badRange first.text last.text) back
            setItems here budget (items ++ [.range a b])
          | _, _ => failBack (.badRange first.text last.text) back
      else setItems here budget (items ++ [low])

/-- A set, read behind its opening bracket. A set of one character is that character. -/
def characterSet : Reader Node := do
  let here := (← tell) - 1
  let negated ← accept '^'
  match distinct (← setItems here ((← get).rest.length + 1) []) with
  | [.char code] => return if negated then .notChar code else .char code
  | items => return .set negated items

/-! ### Choices -/

/-- Items that can be compared by what they are: all but groups, choices and repetitions. -/
def sameItem : Node → Node → Bool
  | .char a, .char b | .notChar a, .notChar b => a == b
  | .any, .any => true
  | .set n a, .set m b => n == m && a == b
  | .at a, .at b => a == b
  | .reference a, .reference b => a == b
  | _, _ => false

def sharedFirst : List (List Node) → Option Node
  | [] => none
  | alternatives@((first :: _) :: _) =>
    if alternatives.all fun a => (a.head?.map (sameItem first)).getD false then some first else none
  | _ => none

/-- Moves the items that all alternatives start with in front of the choice. -/
def splitShared : Nat → List (List Node) → List Node × List (List Node)
  | 0, alternatives => ([], alternatives)
  | budget + 1, alternatives =>
    match sharedFirst alternatives with
    | some n =>
      let (shared, rest) := splitShared budget (alternatives.map (·.drop 1))
      (n :: shared, rest)
    | none => ([], alternatives)

def asSetItems : List Node → Option (List SetItem)
  | [.char code] => some [.char code]
  | [.set false items] => some items
  | _ => none

/-- The choice between alternatives. Single characters and sets make one set. -/
def choice : List (List Node) → List Node
  | [alternative] => alternative
  | alternatives =>
    let budget := (alternatives.map List.length).foldl Nat.max 0
    let (shared, rest) := splitShared budget alternatives
    match rest.mapM asSetItems with
    | some sets => shared ++ [.set false (distinct sets.flatten)]
    | none => shared ++ [.branch rest]

/-! ### Flags -/

def flag? : Symbol → Option Flags
  | .plain c => Flags.ofLetter? c
  | .escaped _ => none

/-- A symbol that is a flag of byte patterns only. -/
def isLocaleFlag (s : Symbol) : Bool :=
  s == .plain 'L'

/-- What is wrong with a symbol that is no flag: letters are unknown flags. -/
def notFlag (s : Symbol) (otherwise : Problem) : Problem :=
  match s with
  | .plain c => if Text.isLetter c then .unknownFlag else otherwise
  | .escaped _ => otherwise

/-- The flags turned on, from the given symbol on, and the symbol behind them. -/
def flagsOn : Nat → Symbol → Flags → Reader (Flags × Symbol)
  | 0, s, on => return (on, s)
  | budget + 1, s, on => do
    if isLocaleFlag s then failHere .localeFlag
    let flag := (flag? s).getD {}
    let on := on.union flag
    if flag.hasType && on.ascii && on.wide then failHere .incompatibleFlags
    match ← take with
    | none => failHere .missingFlagEnd
    | some next =>
      if next = .plain ')' ∨ next = .plain '-' ∨ next = .plain ':' then return (on, next)
      if (flag? next).isNone && !isLocaleFlag next then
        failBack (notFlag next .missingFlagEnd) next.length
      flagsOn budget next on

def flagsOff : Nat → Symbol → Flags → Reader Flags
  | 0, _, off => return off
  | budget + 1, s, off => do
    let flag := (flag? s).getD {}
    if flag.hasType || isLocaleFlag s then failHere .typeFlagTurnedOff
    let off := off.union flag
    match ← take with
    | none => failHere .missingColon
    | some next =>
      if next = .plain ':' then return off
      if (flag? next).isNone && !isLocaleFlag next then
        failBack (notFlag next .missingColon) next.length
      flagsOff budget next off

/-- Flags, read from the given symbol on: `none` when they are set for the whole pattern, otherwise
those a group turns on and off. -/
def flags (s : Symbol) : Reader (Option (Flags × Flags)) := do
  let budget := (← get).rest.length + 2
  let (on, last) ← if s = .plain '-' then pure ({}, s) else flagsOn budget s {}
  if last = .plain ')' then
    modify fun r => { r with flags := r.flags.union on }
    return none
  if on.template then failBack .globalFlagTurnedOn 1
  let off ←
    if last = .plain '-' then
      match ← take with
      | none => failHere .missingFlag
      | some first =>
        if (flag? first).isNone && !isLocaleFlag first then
          failBack (notFlag first .missingFlag) first.length
        flagsOff budget first {}
    else pure {}
  if off.template then failBack .globalFlagTurnedOff 1
  if on.inter off != {} then failBack .flagOnAndOff 1
  return some (on, off)

/-! ### Groups -/

/-- Refuses a text that is no name for a group; it ends `back` characters before the place where
reading is. -/
def checkGroupName (name : List Char) (back : Nat) : Reader Unit := do
  if !Text.isIdentifier name then
    failBack (.badGroupName (String.ofList name)) (name.length + back)

def openGroup (name : Option (List Char)) : Reader Nat := do
  let r ← get
  let group := r.groups.length
  match name with
  | none => set { r with groups := r.groups ++ [none] }
  | some n =>
    let name := String.ofList n
    if let some earlier := r.names.lookup name then
      failBack (.redefinedGroup name group earlier) (n.length + 1)
    set { r with groups := r.groups ++ [none], names := (name, group) :: r.names }
  return group

/-- The widths of the groups, those of open groups left at zero. -/
def Reading.groupWidths (r : Reading) : List Width :=
  r.groups.map (·.getD ⟨0, 0⟩)

def closeGroup (group : Nat) (body : List Node) : Reader Unit :=
  modify fun r => { r with groups := r.groups.set group (some (widthAll r.groupWidths body)) }

/-- A reference to a group by name, read behind `(?P=`. -/
def namedReference : Reader Node := do
  let name ← takeName ')' "group name"
  checkGroupName name 1
  let r ← get
  match r.names.lookup (String.ofList name) with
  | none => failBack (.unknownGroupName (String.ofList name)) (name.length + 1)
  | some group =>
    if (r.groups.getD group none).isNone then failBack .openGroupReference (name.length + 1)
    checkLookbehindGroup group
    return .reference group

/-- No pattern has this many groups. -/
def groupLimit : Nat := 2147483647

def conditionGroup : Reader Nat := do
  let name ← takeName ')' "group name"
  let back := name.length + 1
  let text := String.ofList name
  let group ←
    if Text.isIdentifier name then
      match (← get).names.lookup text with
      | none => failBack (.unknownGroupName text) back
      | some group => pure group
    else
      match Integer.ofText? 10 name with
      | none => failBack (.badGroupName text) back
      | some n =>
        if n < 0 then failBack (.badGroupName text) back
        let group := n.toNat
        if group = 0 then failBack .badGroupNumber back
        if group ≥ groupLimit then failBack (.invalidGroupReference group) back
        let at_ := (← tell) - back
        modify fun r =>
          if (r.conditions.lookup group).isSome then r
          else { r with conditions := r.conditions ++ [(group, at_)] }
        pure group
  checkLookbehindGroup group
  return group

def skipComment (start : Nat) : Nat → Reader Unit
  | 0 => return
  | budget + 1 => do
    match ← take with
    | none => failAt .unterminatedComment start
    | some s => if s = .plain ')' then return else skipComment start budget

def skipLine : Nat → Reader Unit
  | 0 => return
  | budget + 1 => do
    match ← take with
    | none => return
    | some s => if s = .plain '\n' then return else skipLine budget

/-! ### Repetitions -/

def isSkipped (c : Char) : Bool :=
  c == ' ' || (0x09 ≤ c.toNat && c.toNat ≤ 0x0D)

/-- A repetition count; none when there are no digits. -/
def count (digits : List Char) : Reader (Option Nat) := do
  if digits.isEmpty then return none
  if digits.length > Integer.maxDecimalDigits then throw .countTooLong
  let n := digitsValue 10 digits
  if n ≥ countLimit then throw .countTooLarge
  return some n

/-- The bounds between braces, read behind the opening one; `none` when what follows is no pair of
bounds, and then nothing is taken. -/
def bounds : Reader (Option (Nat × Option Nat)) := do
  let before ← get
  if before.rest.head? = some (.plain '\x7d') then return none
  let budget := before.rest.length
  let low ← takeWhile isDecimal budget
  let high ← if ← accept ',' then takeWhile isDecimal budget else pure low
  if !(← accept '\x7d') then
    set before
    return none
  let min ← count low
  let max ← count high
  if let some m := max then
    if m < min.getD 0 then failAt .minExceedsMax before.offset
  return some (min.getD 0, max)

/-- How greedy a repetition is, read behind its sign. -/
def greediness : Reader Greed := do
  if ← accept '?' then return .lazy
  if ← accept '+' then return .possessive
  return .greedy

/-- The items with the last one (they are kept last first) repeated. The repetition sign stood at
`position`. -/
def repeatLast (position : Nat) (min : Nat) (max : Option Nat) (items : List Node) :
    Reader (List Node) := do
  match items with
  | [] | .at _ :: _ => failAt .nothingToRepeat position
  | .repeat .. :: _ => failAt .multipleRepeat position
  | item :: before =>
    let body := match item with
      | .group none on off body => if on = {} ∧ off = {} then body else [item]
      | _ => [item]
    return .repeat (← greediness) min max body :: before

/-- Items with plain groups replaced by what they hold. -/
def unwrap (items : List Node) : List Node :=
  items.flatMap fun n =>
    match n with
    | .group none on off body => if on = {} ∧ off = {} then body else [n]
    | _ => [n]

/-! ### Patterns -/

inductive GroupKind where
  | capture (name : Option (List Char))
  | plain (on off : Flags)
  | atomic
  | look (ahead negated : Bool)
  | conditional (group : Nat)
  /-- Complete already: an item, or nothing at all. -/
  | done (item : Option Node)
  /-- Flags for the whole pattern. -/
  | global

/-- Reads what comes between the opening parenthesis, at `start`, and the body of a group. -/
def groupKind (start : Nat) : Reader GroupKind := do
  if !(← accept '?') then return .capture none
  match ← take with
  | none => failHere .unexpectedEnd
  | some (.plain 'P') =>
    if ← accept '<' then
      let name ← takeName '>' "group name"
      checkGroupName name 1
      return .capture (some name)
    if ← accept '=' then return .done (some (← namedReference))
    match ← take with
    | none => failHere .unexpectedEnd
    | some s => failBack (.unknownExtension ("?P" ++ s.text)) (s.length + 2)
  | some (.plain ':') => return .plain {} {}
  | some (.plain '#') =>
    skipComment start ((← get).rest.length + 1)
    return .done none
  | some (.plain '=') => return .look true false
  | some (.plain '!') => return .look true true
  | some (.plain '<') =>
    match ← take with
    | none => failHere .unexpectedEnd
    | some (.plain '=') => return .look false false
    | some (.plain '!') => return .look false true
    | some s => failBack (.unknownExtension ("?<" ++ s.text)) (s.length + 2)
  | some (.plain '(') => return .conditional (← conditionGroup)
  | some (.plain '>') => return .atomic
  | some s =>
    if (flag? s).isSome || isLocaleFlag s || s = .plain '-' then
      match ← flags s with
      | none => return .global
      | some (on, off) => return .plain on off
    failBack (.unknownExtension ("?" ++ s.text)) (s.length + 1)

/-- Takes the closing parenthesis of the group that started at `start`. -/
def closing (start : Nat) : Reader Unit := do
  if !(← accept ')') then failAt .unterminatedGroup start

mutual

/-- A choice between sequences. `nested` tells that it stands inside a group. -/
def alternatives : Nat → (verbose nested : Bool) → List (List Node) → Reader (List Node)
  | 0, _, _, found => return choice found.reverse
  | fuel + 1, verbose, nested, found => do
    let found := (← sequence fuel verbose (!nested && found.isEmpty) []) :: found
    if ← accept '|' then
      let r ← get
      alternatives fuel (if nested then verbose else r.flags.verbose) nested found
    else return choice found.reverse

/-- A sequence of items, up to a bar, a closing parenthesis or the end. The items found so far are
kept last first; flags for the whole pattern are allowed before the first one of the `first`
sequence. -/
def sequence : Nat → (verbose first : Bool) → List Node → Reader (List Node)
  | 0, _, _, items => return unwrap items.reverse
  | fuel + 1, verbose, first, items => do
    match ← peek with
    | none | some (.plain '|') | some (.plain ')') => return unwrap items.reverse
    | some s =>
      let start ← tell
      let _ ← take
      match s with
      | .escaped c =>
        let item := match ← itemEscape start c with
          | .char code => Node.char code
          | .category class_ negated => .set false [.category class_ negated]
          | .anchor anchor => .at anchor
          | .reference group => .reference group
        sequence fuel verbose first (item :: items)
      | .plain c =>
        if verbose && isSkipped c then return ← sequence fuel verbose first items
        if verbose && c = '#' then
          skipLine ((← get).rest.length + 1)
          return ← sequence fuel verbose first items
        match c with
        | '[' => sequence fuel verbose first ((← characterSet) :: items)
        | '.' => sequence fuel verbose first (.any :: items)
        | '^' => sequence fuel verbose first (.at .lineStart :: items)
        | '$' => sequence fuel verbose first (.at .lineEnd :: items)
        | '?' => sequence fuel verbose first (← repeatLast start 0 (some 1) items)
        | '*' => sequence fuel verbose first (← repeatLast start 0 none items)
        | '+' => sequence fuel verbose first (← repeatLast start 1 none items)
        | '\x7b' =>
          match ← bounds with
          | none => sequence fuel verbose first (.char c.toNat :: items)
          | some (min, max) =>
            sequence fuel verbose first (← repeatLast start min max items)
        | '(' =>
          match ← groupKind start with
          | .done item => sequence fuel verbose first (item.toList ++ items)
          | .global =>
            if !first || !items.isEmpty then failAt .misplacedFlags start
            sequence fuel (← get).flags.verbose first items
          | kind => sequence fuel verbose first ((← group fuel start verbose kind) :: items)
        | _ => sequence fuel verbose first (.char c.toNat :: items)

/-- The body and the closing parenthesis of a group that started at `start`. -/
def group : Nat → Nat → Bool → GroupKind → Reader Node
  | 0, _, _, _ | _, _, _, .done _ | _, _, _, .global => return .any
  | fuel + 1, start, verbose, .capture name => do
    let index ← openGroup name
    let body ← alternatives fuel verbose true []
    closing start
    closeGroup index body
    return .group (some index) {} {} body
  | fuel + 1, start, verbose, .plain on off => do
    let verbose := (verbose || on.verbose) && !off.verbose
    let body ← alternatives fuel verbose true []
    closing start
    return .group none on off body
  | fuel + 1, start, verbose, .atomic => do
    let body ← alternatives fuel verbose true []
    closing start
    return .atomic body
  | fuel + 1, start, verbose, .look ahead negated => do
    let outer := (← get).lookbehindGroups
    if !ahead && outer.isNone then
      modify fun r => { r with lookbehindGroups := some r.groups.length }
    let body ← alternatives fuel verbose true []
    if !ahead && outer.isNone then modify fun r => { r with lookbehindGroups := none }
    closing start
    return .look ahead negated body
  | fuel + 1, start, verbose, .conditional g => do
    let yes ← sequence fuel verbose false []
    let no ←
      if ← accept '|' then
        let no ← sequence fuel verbose false []
        if (← peek) = some (.plain '|') then failHere .tooManyBranches
        pure no
      else pure []
    closing start
    return .conditional g yes no

end

/-- A pattern as read: its tree, the flags for all of it, and the widths of its groups. -/
structure Parsed where
  nodes : List Node
  flags : Flags
  groups : List Width

/-- A whole pattern. Classes of all scripts are the default; conditions must name groups that exist.
-/
def pattern : Reader Parsed := do
  let fuel := 4 * (← get).rest.length + 8
  let nodes ← alternatives fuel false false []
  let r ← get
  if r.flags.ascii && r.flags.wide then throw .conflictingFlags
  if !r.rest.isEmpty then failHere .unbalancedParenthesis
  if let some (g, at_) := r.conditions.find? fun (g, _) => g ≥ r.groups.length then
    failAt (.invalidGroupReference g) at_
  return ⟨nodes, r.flags, r.groupWidths⟩

def parse (text : List Char) : Except Error Parsed := do
  let (parsed, _) ← pattern.run (← Reading.start text)
  return parsed

end Coffer.Pattern
