import Coffer.Record

/-!
The written form of records, as values of the interchange format.
-/

namespace Coffer

def Field.dump (f : Field) : Json :=
  .obj [("key", .str f.key), ("value", .str f.value), ("sensitive", .bool f.sensitive)]

def Timestamp.dump (t : Timestamp) : Json :=
  .str (String.ofList t.text)

def memberIfPresent (key : String) (value : Json) : List (String × Json) :=
  if value.isPresent then [(key, value)] else []

/-- What an entry does not keep is left out, and so is an empty snapshot. -/
def HistoryEntry.dump (e : HistoryEntry) : Json :=
  .obj ([("timestamp", e.time.dump), ("kind", .str e.kind.label)] ++
    memberIfPresent "field_key" e.fieldKey ++
    memberIfPresent "prior_value" e.priorValue ++
    memberIfPresent "prior_sensitive" e.priorSensitive ++
    (if e.snapshot.isEmpty then [] else [("snapshot", .arr (e.snapshot.map Field.dump))]))

def Record.dump (r : Record) : Json :=
  .obj [("id", .str r.id.text), ("name", .str r.name), ("fields", .arr (r.fields.map Field.dump)),
    ("history", .arr (r.history.map HistoryEntry.dump)), ("created_at", r.createdAt.dump),
    ("updated_at", r.updatedAt.dump)]

end Coffer
