import Coffer.Record

/-!
The unlocked vault: live records in the order of their creation, deleted records in the order of
their deletion, and a count of the changes made. Every operation checks its input first and changes
the vault only then, so an operation that fails leaves no trace.
-/

namespace Coffer

inductive VaultError where
  | emptyName
  | emptyKey
  | repeatedKey (key : String)
  | recordNotFound (name : String)
  | recordExists (name : String)
  | fieldNotFound (name key : String)
deriving DecidableEq, Repr

def VaultError.message : VaultError → String
  | .emptyName => "record name must not be empty"
  | .emptyKey => "field key must not be empty"
  | .repeatedKey key => "field '" ++ key ++ "' given more than once"
  | .recordNotFound name => "'" ++ name ++ "' not found"
  | .recordExists name => "'" ++ name ++ "' already exists"
  | .fieldNotFound name key => "'" ++ name ++ "' has no field '" ++ key ++ "'"

/-- The records of an unlocked vault. Names of live records are distinct. -/
structure Vault where
  records : List Record
  tombstones : List Record
  revision : Nat
deriving DecidableEq

namespace Vault

def empty : Vault :=
  ⟨[], [], 0⟩

def size (v : Vault) : Nat :=
  v.records.length

def names (v : Vault) : List String :=
  v.records.map Record.name

def find? (v : Vault) (name : String) : Option Record :=
  v.records.find? (·.name == name)

def contains (v : Vault) (name : String) : Bool :=
  (v.find? name).isSome

/-- The live record of a name, or the complaint that there is none. -/
def live (v : Vault) (name : String) : Except VaultError Record :=
  match v.find? name with
  | some r => .ok r
  | none => .error (.recordNotFound name)

def replace (v : Vault) (name : String) (r : Record) : Vault :=
  { v with records := v.records.map fun q => if q.name = name then r else q }

def touched (v : Vault) : Vault :=
  { v with revision := v.revision + 1 }

/-! ### Setting fields -/

def checkFields (seen : List String) : List Field → Except VaultError Unit
  | [] => .ok ()
  | f :: rest =>
    if f.key = "" then .error .emptyKey
    else if f.key ∈ seen then .error (.repeatedKey f.key)
    else checkFields (f.key :: seen) rest

/-- The log entry for a field that is about to change. -/
def setEntry (now : Timestamp) (previous : Field) : HistoryEntry :=
  { time := now, kind := .fieldSet, fieldKey := .str previous.key,
    priorValue := .str previous.value, priorSensitive := .bool previous.sensitive }

/-- A record with fields stored in order. A field that changes leaves an entry in the log, a new one
does not, and one that stays the same is left alone. -/
def storeFields (now : Timestamp) (r : Record) : List Field → Record
  | [] => r
  | f :: rest =>
    let r := match r.field? f.key with
      | none => { r with fields := storeField f r.fields }
      | some previous =>
        if previous = f then r
        else { r with
          fields := storeField f r.fields
          history := r.history ++ [setEntry now previous] }
    storeFields now r rest

/-- Stores fields in the record of a name, which is created if there is none. -/
def set (now : Timestamp) (v : Vault) (ids : IdSource) (name : String) (fields : List Field) :
    Except VaultError (Record × Vault × IdSource) := do
  if name = "" then .error .emptyName
  checkFields [] fields
  match v.find? name with
  | some r =>
    let r := { storeFields now r fields with updatedAt := now }
    return (r, (v.replace name r).touched, ids)
  | none =>
    let (id, ids) := ids.next
    let r := storeFields now (.blank name id now) fields
    return (r, touched { v with records := v.records ++ [r] }, ids)

/-! ### Deleting and renaming -/

/-- Deletes a record. Its fields go into the last entry of its log, which is kept. -/
def delete (now : Timestamp) (v : Vault) (name : String) : Except VaultError (Record × Vault) := do
  let r ← v.live name
  let entry : HistoryEntry := { time := now, kind := .recordDeleted, snapshot := r.fields }
  let r := { r with fields := [], history := r.history ++ [entry], updatedAt := now }
  return (r, touched { v with
    records := v.records.filter (·.name ≠ name)
    tombstones := v.tombstones ++ [r] })

/-- The log entry for a field that is about to go. -/
def deleteEntry (now : Timestamp) (previous : Field) : HistoryEntry :=
  { time := now, kind := .fieldDeleted, fieldKey := .str previous.key,
    priorValue := .str previous.value, priorSensitive := .bool previous.sensitive }

/-- A record without the fields of the given keys, each of which leaves an entry in the log. Keys it
does not have are passed over. -/
def dropFields (now : Timestamp) (r : Record) : List String → Record
  | [] => r
  | key :: rest =>
    let r := match r.field? key with
      | none => r
      | some previous => { r with
        fields := r.fields.filter (·.key ≠ key)
        history := r.history ++ [deleteEntry now previous] }
    dropFields now r rest

/-- Removes fields from a record. When it has none of them, nothing changes. -/
def deleteFields (now : Timestamp) (v : Vault) (name : String) (keys : List String) :
    Except VaultError (Record × Vault) := do
  let r ← v.live name
  if keys.all fun key => (r.field? key).isNone then return (r, v)
  let r := { dropFields now r keys with updatedAt := now }
  return (r, (v.replace name r).touched)

/-- Gives a record a name that no live record has. -/
def rename (now : Timestamp) (v : Vault) (old new : String) :
    Except VaultError (Record × Vault) := do
  if new = "" then .error .emptyName
  let r ← v.live old
  if v.contains new then .error (.recordExists new)
  let entry : HistoryEntry :=
    { time := now, kind := .recordRenamed, priorValue := .str old, priorSensitive := .bool false }
  let r := { r with name := new, history := r.history ++ [entry], updatedAt := now }
  return (r, (v.replace old r).touched)

end Vault

end Coffer
