import Coffer.Json.Display
import Coffer.Record

/-!
Hiding what the log of a record says about sensitive values.
-/

namespace Coffer

/-- The entry with the value it keeps hidden if that was sensitive, and likewise for its snapshot.
-/
def HistoryEntry.masked (e : HistoryEntry) : HistoryEntry :=
  let hide := e.priorSensitive.isTruthy && e.priorValue.isPresent
  { e with
    priorValue := if hide then .str mask else e.priorValue
    snapshot := e.snapshot.map Field.masked }

end Coffer
