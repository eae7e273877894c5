import Coffer.Record.Dump
import Coffer.Record.Load
import Coffer.Vault.Basic

/-!
The written form of a vault, and vaults from their written form. The count of changes is not
written: a vault that is loaded starts at zero.
-/

namespace Coffer.Vault

def members (v : Vault) : List (String × Json) :=
  [("records", .arr (v.records.map Record.dump)),
    ("tombstones", .arr (v.tombstones.map Record.dump))]

def dump (v : Vault) : Json :=
  .obj v.members

def addRecords (records : List Record) : List Json → Except LoadError (List Record)
  | [] => .ok records
  | item :: rest => do
    let r ← Record.load item
    if records.any (·.name == r.name) then .error (.duplicateName r.name)
    addRecords (records ++ [r]) rest

def load (v : Json) : Except LoadError Vault := do
  let records ← (← v.memberOr "records" (.arr [])).items
  let tombstones ← (← v.memberOr "tombstones" (.arr [])).items
  return ⟨← addRecords [] records, ← tombstones.mapM Record.load, 0⟩

end Coffer.Vault
