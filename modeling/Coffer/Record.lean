import Coffer.Json.Basic
import Coffer.Time.Timestamp
import Coffer.Uuid

/-!
Records: named groups of fields, each with a log of what its fields held before.
-/

namespace Coffer

/-- What is shown in place of a sensitive value. -/
def mask : String := "*****"

structure Field where
  key : String
  value : String
  sensitive : Bool := false
deriving DecidableEq, Repr

def Field.masked (f : Field) : Field :=
  if f.sensitive then { f with value := mask } else f

inductive HistoryEntry.Kind where
  | fieldSet
  | fieldDeleted
  | recordDeleted
  | recordRenamed
deriving DecidableEq, Repr

namespace HistoryEntry.Kind

def label : Kind → String
  | .fieldSet => "field_set"
  | .fieldDeleted => "field_deleted"
  | .recordDeleted => "record_deleted"
  | .recordRenamed => "record_renamed"

/-- The kind with a name. -/
def ofLabel? (s : String) : Option Kind :=
  [Kind.fieldSet, .fieldDeleted, .recordDeleted, .recordRenamed].find? (·.label == s)

end HistoryEntry.Kind

/-- An entry of a record's log. When a field is set or deleted it names the field and keeps the
value and the sensitivity the field had; when a record is renamed it keeps the old name; when a
record is deleted it keeps the fields. Entries written by this library hold texts and truth values,
but whatever value a file has in those places is kept as it is, `null` standing for nothing. -/
structure HistoryEntry where
  time : Timestamp
  kind : HistoryEntry.Kind
  fieldKey : Json := .null
  priorValue : Json := .null
  priorSensitive : Json := .null
  snapshot : List Field := []
deriving DecidableEq

/-- A named group of fields. Keys are distinct, and the log only ever grows at its end. -/
structure Record where
  name : String
  id : Uuid
  fields : List Field
  history : List HistoryEntry
  createdAt : Timestamp
  updatedAt : Timestamp
deriving DecidableEq

namespace Record

/-- A record without fields, created at the given moment. -/
def blank (name : String) (id : Uuid) (now : Timestamp) : Record :=
  ⟨name, id, [], [], now, now⟩

def field? (r : Record) (key : String) : Option Field :=
  r.fields.find? (·.key == key)

/-- The record with the values of sensitive fields hidden. Its log is left as it is. -/
def masked (r : Record) : Record :=
  { r with fields := r.fields.map Field.masked }

end Record

/-- Fields with one of them stored: in the place of the field with the same key, or else at the end.
-/
def storeField (f : Field) : List Field → List Field
  | [] => [f]
  | g :: rest => if g.key = f.key then f :: rest else g :: storeField f rest

/-- The fields of a list, of several with one key the last, in the place of the first. -/
def mergeFields (fs : List Field) : List Field :=
  fs.foldl (fun acc f => storeField f acc) []

end Coffer
