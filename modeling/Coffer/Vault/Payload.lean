import Coffer.Bytes
import Coffer.Json.Printer
import Coffer.Json.Reader
import Coffer.Vault.Dump

/-!
What is sealed in a vault file: the written form of the vault, as bytes. Files without a header hold
a simpler form, a list of records with their fields only.
-/

namespace Coffer

/-- Why bytes hold no vault: they spell no text, the text is no value, the value is no object, or the
object is no vault. -/
inductive PayloadError where
  | notText
  | notJson
  | notAnObject
  | unfit (e : LoadError)
deriving DecidableEq, Repr

def PayloadError.message? : PayloadError → Option String
  | .notText | .notJson => none
  | .notAnObject => some "vault payload must be an object"
  | .unfit e => e.message?

def PayloadError.kind : PayloadError → ErrorKind
  | .notText | .notJson | .notAnObject => .value
  | .unfit e => e.kind

namespace Vault

def payloadVersion : Nat := 1

/-- The bytes to be sealed. -/
def payload (v : Vault) : Bytes :=
  Bytes.ofText (String.ofList (Json.print (.obj (("version", .int payloadVersion) :: v.members))))

def loadLegacyField (v : Json) : Except LoadError Field := do
  let key ← v.member "attr"
  let value ← v.member "value"
  let sensitive ← v.memberOr "sensitive" (.bool false)
  return ⟨key.display, value.display, sensitive.isTruthy⟩

/-- A record of the simpler form, taken to be made at the given moment. -/
def loadLegacyRecord (now : Timestamp) (v : Json) : Except LoadError Record := do
  let fields ← (← (← v.memberOr "fields" (.arr [])).items).mapM loadLegacyField
  let name ← v.member "name"
  let id ← v.member "id"
  match Uuid.ofText? id.display with
  | none => .error .badValue
  | some id => return { Record.blank name.display id now with fields := mergeFields fields }

def addLegacyRecords (records : List Record) : List Record → Except LoadError (List Record)
  | [] => .ok records
  | r :: rest =>
    if records.any (·.name == r.name) then .error (.duplicateName r.name)
    else addLegacyRecords (records ++ [r]) rest

/-- A vault from the simpler form: a list of records, or an object with such a list. -/
def loadLegacy (now : Timestamp) (v : Json) : Except LoadError Vault := do
  let list ← match v with
    | .obj _ => v.memberOr "records" (.arr [])
    | _ => .ok v
  let records ← (← list.items).mapM (loadLegacyRecord now)
  return ⟨← addLegacyRecords [] records, [], 0⟩

/-- The vault that bytes hold, in the simpler form or not. -/
def ofPayload (now : Timestamp) (legacy : Bool) (bs : Bytes) : Except PayloadError Vault :=
  match Bytes.toText? bs with
  | none => .error .notText
  | some text =>
    match Json.read text.toList, legacy with
    | none, _ => .error .notJson
    | some v, true => (loadLegacy now v).mapError .unfit
    | some (.obj members), false => (Vault.load (.obj members)).mapError .unfit
    | some _, false => .error .notAnObject

end Vault

end Coffer
