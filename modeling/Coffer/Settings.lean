import Coffer.Key
import Coffer.Log.Level
import Coffer.Number.Integer
import Coffer.Path
import Coffer.Text.Case
import Coffer.Text.Quoted

/-!
Settings, from the variables of the environment.
-/

namespace Coffer

structure Settings where
  vaultPath : String := "~/royalguard.rgv"
  params : KeyParams := {}
  /-- Seconds until a copied value is cleared, 0 for never. -/
  clipboardTimeout : Nat := 30
  logFile : Option String := none
  logLevel : LogLevel := .info
deriving DecidableEq, Repr

inductive SettingsError where
  | timeoutNotANumber (text : String)
  | timeoutNegative
  | unknownLevel (name : String)
deriving DecidableEq, Repr

def SettingsError.message : SettingsError → String
  | .timeoutNotANumber text =>
    "ROYALGUARD_CLIPBOARD_TIMEOUT must be an integer, got " ++
      String.ofList (Text.quoted text.toList)
  | .timeoutNegative => "ROYALGUARD_CLIPBOARD_TIMEOUT must not be negative"
  | .unknownLevel name => "unknown log level " ++ String.ofList (Text.quoted name.toList)

namespace Settings

abbrev Environment := List (String × String)

/-- The value of a variable, none if it is missing or empty. -/
def nonEmpty (env : Environment) (key : String) : Option String :=
  (env.lookup key).filter (· != "")

/-- The timeout that a text gives; a blank text leaves the usual one. -/
def timeoutOf (text : String) : Except SettingsError Nat :=
  let cs := Text.trim text.toList
  if cs.isEmpty then .ok ({} : Settings).clipboardTimeout
  else
    match Integer.ofText? 10 cs with
    | none => .error (.timeoutNotANumber (String.ofList cs))
    | some n => if n < 0 then .error .timeoutNegative else .ok n.toNat

/-- The level that a text gives, in any letter case. -/
def levelOf (text : String) : Except SettingsError LogLevel :=
  let name := String.ofList (Text.upper (Text.trim text.toList))
  match LogLevel.ofName? name with
  | some level => .ok level
  | none => .error (.unknownLevel name)

def ofEnvironment (env : Environment) : Except SettingsError Settings := do
  let usual : Settings := {}
  let clipboardTimeout ← timeoutOf ((env.lookup "ROYALGUARD_CLIPBOARD_TIMEOUT").getD "")
  let logLevel ← levelOf ((env.lookup "ROYALGUARD_LOG_LEVEL").getD usual.logLevel.name)
  return { usual with
    vaultPath := (nonEmpty env "ROYALGUARD_VAULT").getD usual.vaultPath
    clipboardTimeout
    logFile := nonEmpty env "ROYALGUARD_LOG_FILE"
    logLevel }

def withVault (s : Settings) : Option String → Settings
  | some path => if path = "" then s else { s with vaultPath := path }
  | none => s

def resolvedVaultPath (s : Settings) (b : Base) : Path :=
  Path.absolute b s.vaultPath

end Settings

end Coffer
