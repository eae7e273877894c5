import Coffer.RecordSpec

/-!
Commands: what a line typed by the user asks for. The first word names the command, in any letter
case.
-/

namespace Coffer

/-- A request to read or change an unlocked vault. -/
inductive Command where
  /-- Stores fields in a record. -/
  | set (spec : RecordSpec)
  /-- Deletes the fields of the given keys, or the whole record when there are none. -/
  | delete (name : String) (keys : List String)
  /-- Lists the records that satisfy a filter, or all of them. -/
  | «show» (filter : Option Filter) (reveal : Bool)
  /-- Lists what a record held before. -/
  | history (name : String) (reveal : Bool)
  /-- Copies the value of a field. -/
  | copy (name key : String)
  | rename (old new : String)
  /-- Stores the record specs of a file, one a line. -/
  | importFile (path : String)
deriving DecidableEq

namespace Command

inductive Word where
  | set
  | delete
  | «show»
  | reveal
  | history
  | copy
  | rename
  | importFile
deriving DecidableEq, Repr

def words : List (String × Word) :=
  [("set", .set), ("add", .set), ("del", .delete), ("delete", .delete), ("show", .show),
    ("reveal", .reveal), ("history", .history), ("copy", .copy), ("rename", .rename),
    ("import", .importFile)]

/-- The command word that a text is, in any letter case. -/
def Word.ofText? (s : String) : Option Word :=
  words.lookup (String.ofList (Text.lowerWord s.toList))

open RecordSpec (current takeName takeFields)

/-- Refuses anything but the sentinel. -/
def expectEnd (ts : List Token) : Except ReadError Unit :=
  let t := current ts
  if t.isStop then .ok () else .error (t.fault (.unexpected t))

/-- Takes names up to the sentinel; the budget bounds their number. -/
def takeNames (what : String) : Nat → List Token → Except ReadError (List String)
  | 0, _ => .ok []
  | budget + 1, ts => do
    if (current ts).isStop then return []
    let (t, rest) ← takeName what ts
    return t.text :: (← takeNames what budget rest)

/-- What follows `show` or `reveal`: `all`, a record's name, or a filter; and behind `reveal` also
`history` with a name. -/
def listing (reveal : Bool) (ts : List Token) : Except ReadError Command := do
  let first := current ts
  let second := current (ts.drop 1)
  if first.isStop then .error (first.fault (.expected "'all', a record name or a filter" first))
  if reveal && first.isWord "history" && !second.isStop then
    let (name, rest) ← takeName "a record name" (ts.drop 1)
    expectEnd rest
    return .history name.text true
  if first.isValue && second.isStop then
    if first.isWord "all" then return .show none reveal
    return .show (some (.atom ⟨.name, .is first.text⟩)) reveal
  return .show (some (← Filter.State.start.run ts)) reveal

/-- What follows a command word. -/
def arguments (word : Word) (ts : List Token) : Except ReadError Command :=
  match word with
  | .set => do
    let (name, rest) ← takeName "a record name" ts
    return .set ⟨name.text, ← takeFields rest.length [] rest⟩
  | .delete => do
    let (name, rest) ← takeName "a record name" ts
    return .delete name.text (← takeNames "a field name" rest.length rest)
  | .show => listing false ts
  | .reveal => listing true ts
  | .history => do
    let (name, rest) ← takeName "a record name" ts
    expectEnd rest
    return .history name.text false
  | .copy => do
    let (name, rest) ← takeName "a record name" ts
    let (key, rest) ← takeName "a field name" rest
    expectEnd rest
    return .copy name.text key.text
  | .rename => do
    let (old, rest) ← takeName "a record name" ts
    let (new, rest) ← takeName "a new record name" rest
    expectEnd rest
    return .rename old.text new.text
  | .importFile => do
    let (path, rest) ← takeName "a file path" ts
    expectEnd rest
    return .importFile path.text

def ofTokens (ts : List Token) : Except ReadError Command :=
  let ts := Token.terminated ts
  let head := current ts
  if head.kind ≠ .identifier then .error (head.fault (.expected "a command" head))
  else
    match Word.ofText? head.text with
    | none => .error (head.fault (.unknownCommand head.text))
    | some word => arguments word (ts.drop 1)

def parse (text : String) : Except ReadError Command :=
  match Token.tokenize text with
  | .ok ts => ofTokens ts
  | .error e => .error (.lex e)

def isMutating : Command → Bool
  | .set _ | .delete .. | .rename .. | .importFile _ => true
  | .show .. | .history .. | .copy .. => false

end Command

end Coffer
