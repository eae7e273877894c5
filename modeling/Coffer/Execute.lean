import Coffer.Command
import Coffer.Import
import Coffer.Session
import Coffer.Text.Lines
import Coffer.Vault.Query

/-!
Carrying commands out. A command that changes the vault is followed by a save; when that fails, the
change is kept in memory.
-/

namespace Coffer

inductive ExecuteError where
  | session (e : SessionError)
  | vault (e : VaultError)
  /-- A filter is too deep to be tried. -/
  | tooDeep
deriving DecidableEq, Repr

inductive LineError where
  | read (e : ReadError)
  | execute (e : ExecuteError)
deriving DecidableEq, Repr

/-- What a command yields: a message, and records, log entries, a value to copy or a report, as the
command may be. `saved` tells whether the vault was written. -/
structure CommandResult where
  message : String
  records : List Record := []
  history : List HistoryEntry := []
  copied : Option String := none
  report : Option ImportReport := none
  saved : Bool := false
deriving DecidableEq

def Command.kind : Command → String
  | .set _ => "SetCommand"
  | .delete .. => "DeleteCommand"
  | .show .. => "ShowCommand"
  | .history .. => "HistoryCommand"
  | .copy .. => "CopyCommand"
  | .rename .. => "RenameCommand"
  | .importFile _ => "ImportCommand"

namespace Session

/-- The step that fails and changes nothing. -/
def refuse {α : Type} (e : ExecuteError) (s : Session) (w : World) : Outcome ExecuteError α :=
  ⟨.error e, s, w⟩

/-- Saves the vault after a command, and yields the command's result. -/
def commit (c : Command) (r : CommandResult) (v : Vault) (s : Session) (w : World) :
    Outcome ExecuteError CommandResult :=
  match { s with vault := some v }.save w with
  | ⟨.error e, s, w⟩ => ⟨.error (.session e), s, w⟩
  | ⟨.ok (), s, w⟩ => ⟨.ok { r with saved := true }, s, w.note (.commandSaved c.kind)⟩

def importFileLines (current : Path) (path : String) (d : Disk) : Except FileError (List String) :=
  match d.readFrom current path with
  | .error e => .error ⟨.cannotReadImport e, path⟩
  | .ok bytes =>
    match Bytes.toText? bytes with
    | none => .error ⟨.importNotText, path⟩
    | some text => .ok ((Text.lines text.toList).map String.ofList)

def noteImport (before after : Vault) (report : ImportReport) (w : World) : World :=
  let rejected := report.failures.filter fun f => f.fault matches .rejected _
  let w := (after.names.drop before.size).foldl (fun w name => w.note (.recordCreated name)) w
  (w.note (.entriesApplied report.imported rejected.length)).note
    (.linesImported report.imported report.failures.length)

/-- Carries a command out. Relative paths in it are seen from the folder `current`. -/
def execute (current : Path) (c : Command) (s : Session) (w : World) :
    Outcome ExecuteError CommandResult :=
  match s.vault with
  | none => s.refuse (.session .notUnlocked) w
  | some v =>
    match c with
    | .set spec =>
      match v.set w.now w.ids spec.name spec.fields with
      | .error e => s.refuse (.vault e) w
      | .ok (r, v', ids) =>
        let w := { w with ids }
        let w := if v.contains spec.name then w else w.note (.recordCreated spec.name)
        s.commit c { message := "'" ++ r.name ++ "' saved", records := [r.masked] } v' w
    | .delete name [] =>
      match v.delete w.now name with
      | .error e => s.refuse (.vault e) w
      | .ok (_, v') =>
        s.commit c { message := "'" ++ name ++ "' deleted" } v' (w.note (.recordDeleted name))
    | .delete name keys =>
      match v.deleteFields w.now name keys with
      | .error e => s.refuse (.vault e) w
      | .ok (r, v') =>
        s.commit c { message := "'" ++ r.name ++ "' updated", records := [r.masked] } v' w
    | .rename old new =>
      match v.rename w.now old new with
      | .error e => s.refuse (.vault e) w
      | .ok (r, v') =>
        let message := "'" ++ old ++ "' renamed to '" ++ new ++ "'"
        s.commit c { message, records := [r.masked] } v' w
    | .importFile path =>
      match importFileLines current path w.disk with
      | .error e => s.refuse (.session (.file e)) w
      | .ok lines =>
        let (report, v', ids) := v.importLines w.now w.ids lines
        let w := noteImport v v' report { w with ids }
        let message := toString report.imported ++ " record(s) imported"
        s.commit c { message, report := some report } v' w
    | .show filter reveal =>
      match v.reveal? filter with
      | none => s.refuse .tooDeep w
      | some found =>
        let records := if reveal then found else found.map Record.masked
        ⟨.ok { message := toString records.length ++ " record(s)", records }, s, w⟩
    | .history name reveal =>
      match v.history name reveal with
      | .error e => s.refuse (.vault e) w
      | .ok entries =>
        ⟨.ok { message := toString entries.length ++ " history entries", history := entries }, s, w⟩
    | .copy name key =>
      match v.fieldValue name key with
      | .error e => s.refuse (.vault e) w
      | .ok value =>
        ⟨.ok { message := "'" ++ name ++ "' " ++ key ++ " resolved", copied := some value }, s, w⟩

def runLine (current : Path) (line : String) (s : Session) (w : World) :
    Outcome LineError CommandResult :=
  match Command.parse line with
  | .error e => ⟨.error (.read e), s, w⟩
  | .ok c =>
    match s.execute current c w with
    | ⟨.error e, s, w⟩ => ⟨.error (.execute e), s, w⟩
    | ⟨.ok r, s, w⟩ => ⟨.ok r, s, w⟩

end Session

end Coffer
