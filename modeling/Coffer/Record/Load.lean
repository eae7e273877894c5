import Coffer.ErrorKind
import Coffer.Json.Display
import Coffer.Record

/-!
Records from their written form. Whatever stands where a text is wanted is taken as the text it is
shown as; what cannot be taken at all is an error.
-/

namespace Coffer

/-- Why a value is no written record, or no written vault. -/
inductive LoadError where
  /-- An object lacks a member it must have. -/
  | missing (key : String)
  /-- A value of the wrong sort stands where members, items or a written moment are wanted. -/
  | wrongSort
  /-- Something else than an object, or something else than a text for an id. -/
  | notAnObject
  /-- A moment, an id or a kind that does not exist. -/
  | badValue
  /-- Two live records of one name. -/
  | duplicateName (name : String)
deriving DecidableEq, Repr

def LoadError.message? : LoadError → Option String
  | .duplicateName name =>
    some ("duplicate record name " ++ String.ofList (Text.quoted name.toList))
  | _ => none

def LoadError.kind : LoadError → ErrorKind
  | .missing _ => .key
  | .wrongSort => .type
  | .notAnObject => .attribute
  | .badValue | .duplicateName _ => .value

namespace Json

def member (v : Json) (key : String) : Except LoadError Json :=
  match v with
  | .obj _ => match v.get? key with
    | some m => .ok m
    | none => .error (.missing key)
  | _ => .error .wrongSort

def memberOr (v : Json) (key : String) (default : Json) : Except LoadError Json :=
  match v with
  | .obj _ => .ok ((v.get? key).getD default)
  | _ => .error .notAnObject

/-- The items to go through: those of a list, the characters of a text, the keys of an object. -/
def items : Json → Except LoadError (List Json)
  | .arr items => .ok items
  | .str s => .ok (s.toList.map fun c => .str (String.singleton c))
  | .obj members => .ok (members.map fun m => .str m.1)
  | _ => .error .wrongSort

end Json

def Field.load (v : Json) : Except LoadError Field := do
  let key ← v.member "key"
  let value ← v.member "value"
  let sensitive ← v.memberOr "sensitive" (.bool false)
  return ⟨key.display, value.display, sensitive.isTruthy⟩

def Timestamp.load : Json → Except LoadError Timestamp
  | .str s => match Timestamp.ofText? s.toList with
    | some t => .ok t
    | none => .error .badValue
  | _ => .error .wrongSort

def HistoryEntry.Kind.load : Json → Except LoadError HistoryEntry.Kind
  | .str s => match HistoryEntry.Kind.ofLabel? s with
    | some k => .ok k
    | none => .error .badValue
  | _ => .error .badValue

def HistoryEntry.load (v : Json) : Except LoadError HistoryEntry := do
  let time ← Timestamp.load (← v.member "timestamp")
  let kind ← HistoryEntry.Kind.load (← v.member "kind")
  let fieldKey ← v.memberOr "field_key" .null
  let priorValue ← v.memberOr "prior_value" .null
  let priorSensitive ← v.memberOr "prior_sensitive" .null
  let snapshot ← (← v.memberOr "snapshot" (.arr [])).items
  return ⟨time, kind, fieldKey, priorValue, priorSensitive, ← snapshot.mapM Field.load⟩

def Uuid.load : Json → Except LoadError Uuid
  | .str s => match Uuid.ofText? s with
    | some u => .ok u
    | none => .error .badValue
  | .null => .error .wrongSort
  | _ => .error .notAnObject

/-- Of several fields with one key the last counts, in the place of the first. -/
def Record.load (v : Json) : Except LoadError Record := do
  let fields ← (← (← v.memberOr "fields" (.arr [])).items).mapM Field.load
  let name ← v.member "name"
  let id ← Uuid.load (← v.member "id")
  let history ← (← (← v.memberOr "history" (.arr [])).items).mapM HistoryEntry.load
  let createdAt ← Timestamp.load (← v.member "created_at")
  let updatedAt ← Timestamp.load (← v.member "updated_at")
  return ⟨name.display, id, mergeFields fields, history, createdAt, updatedAt⟩

end Coffer
