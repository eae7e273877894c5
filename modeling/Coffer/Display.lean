import Coffer.Import
import Coffer.Json.Display
import Coffer.Record.Masked
import Coffer.Token.Quote

/-!
What is printed for people: messages, records, logs and import reports. Moments are printed in
universal time, as on a machine whose own time zone that is.
-/

namespace Coffer.Display

open Token (quote)

/-! ### Messages -/

def success (message : String) : String :=
  "[+] " ++ message

def failure (message : String) : String :=
  "[-] " ++ message

def info (message : String) : String :=
  "[i] " ++ message

/-! ### Records -/

/-- A field as it is written behind a record's name. A hidden value stands bare, any other is
quoted. -/
def fieldText (f : Field) : String :=
  f.key ++ "=" ++ (if f.value = mask ∧ f.sensitive then f.value else quote f.value)

def recordLine (r : Record) : String :=
  String.intercalate " " (quote r.name :: r.fields.map fieldText)

def records (rs : List Record) : List String :=
  if rs.isEmpty then [failure "No records found"] else rs.map recordLine

/-! ### Logs -/

/-- Why a log entry cannot be printed: its moment lies outside the calendar once it is put in
universal time, or so close to the calendar's start that its day cannot be told, or it keeps a value
that is no text. -/
inductive Error where
  | outOfRange
  | unknownDay
  | notText
deriving DecidableEq, Repr

/-- A kept value as a literal; nothing, and whatever is empty, is the empty text. -/
def quoteKept (v : Json) : Except Error String :=
  if !v.isTruthy then .ok (quote "")
  else
    match v with
    | .str s => .ok (quote s)
    | _ => .error .notText

/-- The kept value of an entry. A hidden one stands bare. -/
def priorText (e : HistoryEntry) : Except Error String :=
  match e.priorSensitive.isTruthy, e.priorValue with
  | true, .str s => if s = mask then .ok s else quoteKept e.priorValue
  | _, v => quoteKept v

/-- The moment of an entry on the scale of universal time. A clock of unknown offset is taken to
show it; the day before such a moment has to exist too. -/
def stamp (t : Timestamp) : Except Error String :=
  match t.offset with
  | none =>
    if t.wall < Timestamp.firstMicros + Timestamp.microsPerDay then .error .unknownDay
    else .ok (String.ofList (Timestamp.stamp t.wall))
  | some offset =>
    let i := t.wall - offset
    if i < Timestamp.firstMicros ∨ i ≥ Timestamp.lastMicros then .error .outOfRange
    else .ok (String.ofList (Timestamp.stamp i))

def entryLine (e : HistoryEntry) : Except Error String := do
  let stamp ← stamp e.time
  match e.kind with
  | .fieldSet =>
    return stamp ++ "  " ++ e.fieldKey.display ++ " changed, was " ++ (← priorText e)
  | .fieldDeleted =>
    return stamp ++ "  " ++ e.fieldKey.display ++ " deleted, was " ++ (← priorText e)
  | .recordRenamed => return stamp ++ "  renamed from " ++ (← quoteKept e.priorValue)
  | .recordDeleted =>
    let fields := String.intercalate " " (e.snapshot.map fieldText)
    return String.ofList (Text.trimRight (stamp ++ "  record deleted  " ++ fields).toList)

/-- What is printed above a log. -/
def historyHead (name : String) : List String :=
  ["History of '" ++ name ++ "' (oldest first)", String.ofList (List.replicate 50 '-')]

/-- The listing of a log, and what cut it short, if anything did. -/
def history (name : String) (entries : List HistoryEntry) : List String × Option Error :=
  if entries.isEmpty then ([info ("No history for '" ++ name ++ "'")], none)
  else
    let (lines, e) := entryLines entries
    (historyHead name ++ lines, e)
where
  /-- Lines up to the first entry that cannot be printed. -/
  entryLines : List HistoryEntry → List String × Option Error
    | [] => ([], none)
    | e :: rest =>
      match entryLine e with
      | .ok line =>
        let (lines, err) := entryLines rest
        (line :: lines, err)
      | .error err => ([], some err)

/-! ### Import reports -/

/-- The listing of an import: the count, then the lines that failed with the reasons. -/
def importLines (imported : Nat) (failures : List (Int × String)) : List String :=
  success (toString imported ++ " record(s) imported") ::
    failures.map fun (line, reason) => failure ("line " ++ toString line ++ ": " ++ reason)

def importReport (r : ImportReport) : List String :=
  importLines r.imported (r.failures.map fun f => (f.line, f.fault.message))

end Coffer.Display
