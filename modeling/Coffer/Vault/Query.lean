import Coffer.Filter
import Coffer.Record.Masked
import Coffer.Vault.Basic

/-!
Questions about a vault. None of them changes it.
-/

namespace Coffer.Vault

/-- A copy of the live record of a name, with sensitive values hidden unless they are asked for. -/
def get (v : Vault) (name : String) (reveal : Bool) : Except VaultError Record :=
  (v.live name).map fun r => if reveal then r else r.masked

/-- The live records that satisfy a filter, all of them without one, in order. -/
def reveal (v : Vault) (filter : Option Filter) : List Record :=
  match filter with
  | none => v.records
  | some f => v.records.filter f.holds

/-- The live records that satisfy a filter, with sensitive values hidden. -/
def «show» (v : Vault) (filter : Option Filter) : List Record :=
  (v.reveal filter).map Record.masked

/-- The records that pass a test, none if the test cannot tell of one of them. -/
def sift (test : Record → Option Bool) : List Record → Option (List Record)
  | [] => some []
  | r :: rs => do
    let passes ← test r
    let rest ← sift test rs
    return if passes then r :: rest else rest

/-- What `reveal` selects, none if the filter is too deep for one of the records. -/
def reveal? (v : Vault) (filter : Option Filter) : Option (List Record) :=
  match filter with
  | none => some v.records
  | some f => sift f.holds? v.records

def fieldValue (v : Vault) (name key : String) : Except VaultError String := do
  let r ← v.live name
  match r.field? key with
  | some f => return f.value
  | none => .error (.fieldNotFound name key)

/-- The record that a reference means: the live record of that name, or else the one of that name
deleted last, or else the record with that id. -/
def findAny (v : Vault) (ref : String) : Option Record :=
  match v.find? ref with
  | some r => some r
  | none =>
    match v.tombstones.reverse.find? (·.name == ref) with
    | some r => some r
    | none =>
      match Uuid.ofText? ref with
      | some id => (v.records ++ v.tombstones).find? (·.id == id)
      | none => none

/-- The log of the record that a reference means, oldest entry first, with values that were
sensitive hidden unless they are asked for. -/
def history (v : Vault) (ref : String) (reveal : Bool) : Except VaultError (List HistoryEntry) :=
  match v.findAny ref with
  | some r => .ok (if reveal then r.history else r.history.map HistoryEntry.masked)
  | none => .error (.recordNotFound ref)

end Coffer.Vault
