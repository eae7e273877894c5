import Coffer.RecordSpec
import Coffer.Vault.Basic

/-!
Importing records: one record spec a line, each applied like a `set`. A line that cannot be read or
stored is reported and does not keep the others back.
-/

namespace Coffer

inductive ImportFault where
  | unreadable (e : ReadError)
  | rejected (e : VaultError)
deriving DecidableEq, Repr

/-- The complaint about a text or about tokens. -/
def ReadError.message : ReadError → String
  | .lex e => e.message
  | .parse e => e.message
  | .countTooLarge => "the repetition number is too large"
  | .badPatternValue => "unusable pattern"

def ImportFault.message : ImportFault → String
  | .unreadable e => e.message
  | .rejected e => e.message

structure ImportFailure where
  line : Int
  fault : ImportFault
deriving DecidableEq, Repr

/-- How many records were stored, and which lines were not. -/
structure ImportReport where
  imported : Nat
  failures : List ImportFailure
deriving DecidableEq, Repr

structure ImportEntry where
  line : Int
  spec : RecordSpec
deriving DecidableEq, Repr

/-- Stores record specs one after the other. -/
def Vault.importEntries (now : Timestamp) (v : Vault) (ids : IdSource) :
    List ImportEntry → ImportReport × Vault × IdSource
  | [] => (⟨0, []⟩, v, ids)
  | e :: rest =>
    match v.set now ids e.spec.name e.spec.fields with
    | .ok (_, v, ids) =>
      let (report, v, ids) := v.importEntries now ids rest
      ({ report with imported := report.imported + 1 }, v, ids)
    | .error fault =>
      let (report, v, ids) := v.importEntries now ids rest
      ({ report with failures := ⟨e.line, .rejected fault⟩ :: report.failures }, v, ids)

/-- The record specs on the lines from number `n` on, and the lines that are none. Blank lines are
passed over. -/
def readImportLines (n : Int) : List String → List ImportEntry × List ImportFailure
  | [] => ([], [])
  | line :: rest =>
    let (entries, failures) := readImportLines (n + 1) rest
    if line.toList.all Text.isBlank then (entries, failures)
    else
      match RecordSpec.parse line with
      | .ok spec => (⟨n, spec⟩ :: entries, failures)
      | .error e => (entries, ⟨n, .unreadable e⟩ :: failures)

def Vault.importLines (now : Timestamp) (v : Vault) (ids : IdSource) (lines : List String) :
    ImportReport × Vault × IdSource :=
  let (entries, failures) := readImportLines 1 lines
  let (report, v, ids) := v.importEntries now ids entries
  ({ report with
      failures := (failures ++ report.failures).mergeSort fun a b => a.line ≤ b.line }, v, ids)

end Coffer
