import Coffer.Json.Basic
import Coffer.Log.Level

/-!
What is worth noting while a vault is worked with, and the form in which it is noted. No event
carries the value of a field.
-/

namespace Coffer

/-- A note: who makes it, how urgent it is, and a text with gaps for its arguments. -/
structure Note where
  source : String
  level : Int
  template : String
  args : List Json
deriving DecidableEq

inductive Event where
  | fileLoaded (version : Int) (size : Nat)
  | fileSaved (size : Nat)
  | vaultCreated (path : String)
  | vaultUnlocked (path : String) (records : Nat)
  | unlockFailed (path : String)
  | oldFormat (path : String)
  | passwordChanged (path : String)
  | recordCreated (name : String)
  | recordDeleted (name : String)
  | entriesApplied (applied failed : Nat)
  | linesImported (imported rejected : Nat)
  | commandSaved (command : String)
  | saveFailed (message : String)
  | clipboardUnavailable (reason : String)
  | clipboardNotCleared (reason : String)
deriving DecidableEq, Repr

def Event.note : Event → Note
  | .fileLoaded version size =>
    ⟨"royalguard.storage", LogLevel.debug.number, "loaded vault envelope v%d (%d bytes)",
      [.int version, .int size]⟩
  | .fileSaved size =>
    ⟨"royalguard.storage", LogLevel.debug.number, "saved vault envelope (%d bytes)", [.int size]⟩
  | .vaultCreated path =>
    ⟨"royalguard.database", LogLevel.info.number, "created vault %s", [.str path]⟩
  | .vaultUnlocked path records =>
    ⟨"royalguard.database", LogLevel.info.number, "unlocked vault %s (%d records)",
      [.str path, .int records]⟩
  | .unlockFailed path =>
    ⟨"royalguard.database", LogLevel.warning.number, "unlock failed for %s", [.str path]⟩
  | .oldFormat path =>
    ⟨"royalguard.database", LogLevel.info.number,
      "legacy vault %s will be upgraded on the next save", [.str path]⟩
  | .passwordChanged path =>
    ⟨"royalguard.database", LogLevel.info.number, "master password changed for %s", [.str path]⟩
  | .recordCreated name =>
    ⟨"royalguard.vault", LogLevel.debug.number, "created record %r", [.str name]⟩
  | .recordDeleted name =>
    ⟨"royalguard.vault", LogLevel.debug.number, "tombstoned record %r", [.str name]⟩
  | .entriesApplied applied failed =>
    ⟨"royalguard.vault", LogLevel.debug.number, "import applied %d entries, %d failed",
      [.int applied, .int failed]⟩
  | .linesImported imported rejected =>
    ⟨"royalguard.import", LogLevel.info.number, "imported %d records (%d lines rejected)",
      [.int imported, .int rejected]⟩
  | .commandSaved command =>
    ⟨"royalguard.commands", LogLevel.debug.number, "persisted after %s", [.str command]⟩
  | .saveFailed message =>
    ⟨"royalguard.shell", LogLevel.error.number, "save failed: %s", [.str message]⟩
  | .clipboardUnavailable reason =>
    ⟨"royalguard.ui", LogLevel.warning.number, "clipboard unavailable: %s", [.str reason]⟩
  | .clipboardNotCleared reason =>
    ⟨"royalguard.ui", LogLevel.debug.number, "could not clear clipboard: %s", [.str reason]⟩

end Coffer
