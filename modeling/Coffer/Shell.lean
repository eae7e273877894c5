import Coffer.Clipboard
import Coffer.Display
import Coffer.Execute
import Coffer.Settings

/-!
The shell: a dialogue in stages. At every stage something is asked for; the reply leads to the next
stage, until the dialogue is over. A line that is typed is a text, passwords included.
-/

namespace Coffer

inductive Reply where
  | line (text : String)
  | closed
  | interrupted
deriving DecidableEq, Repr

inductive Purpose where
  | create
  | change
deriving DecidableEq, Repr

inductive Crash where
  | session (e : SessionError)
  | vault (e : VaultError)
  | read (e : ReadError)
  | display (e : Display.Error)
  | tooDeep
deriving DecidableEq, Repr

inductive Stage where
  /-- The master password; `attempt` counts from 1. -/
  | masterPassword (attempt : Nat)
  /-- Whether to create the vault that there is not. -/
  | createNow
  | newPassword (purpose : Purpose)
  /-- The new password again. -/
  | confirmPassword (purpose : Purpose) (first : String)
  | command
  | currentPassword
  /-- Whether to give up unsaved changes. -/
  | exitAnyway
  /-- Nothing; the dialogue is over, with an exit code. -/
  | finished (code : Nat)
  /-- Nothing; the program has failed. -/
  | crashed (e : Crash)
deriving DecidableEq, Repr

/-- Whether nothing more is asked for. -/
def Stage.isOver : Stage → Bool
  | .finished _ | .crashed _ => true
  | _ => false

/-- The dialogue so far: how the program is set up, what it works with, and the lines printed. -/
structure Shell where
  settings : Settings
  base : Base
  session : Session
  world : World
  clipboard : Clipboard := {}
  output : List String := []

inductive ShellWord where
  | help
  | exit
  | save
  | passwd
deriving DecidableEq, Repr

def shellWords : List (String × ShellWord) :=
  [("help", .help), ("h", .help), ("exit", .exit), ("quit", .exit), ("q", .exit), ("save", .save),
    ("passwd", .passwd)]

def ShellWord.ofLine? (line : List Char) : Option ShellWord :=
  shellWords.lookup (String.ofList (Text.lowerWord line))

namespace Shell

/-- New master passwords have at least this many characters. -/
def minPasswordLength : Nat := 8

/-- The master password is asked for at most this many times. -/
def maxAttempts : Nat := 3

def helpText : List String :=
  ["",
    "Commands:",
    "",
    "  set <name> [[sensitive] <field> [sensitive] = <value>]...   create or update a record " ++
      "(alias: add)",
    "  del <name> [<field>...]                                      delete a record or some of " ++
      "its fields",
    "  show all | <name> | <filter>                                 list records, sensitive " ++
      "values masked",
    "  reveal all | <name> | <filter>                               list records with actual " ++
      "values",
    "  history <name>                                               show prior values (masked)",
    "  reveal history <name>                                        show prior values",
    "  copy <name> <field>                                          copy a value to the clipboard",
    "  rename <old> <new>                                           rename a record",
    "  import <path>                                                import one record per line",
    "  save                                                         write unsaved changes to " ++
      "the vault",
    "  passwd                                                       change the master password",
    "  help (h)                                                     show this help",
    "  exit (quit, q)                                               lock the vault and exit",
    "",
    "Filters:  <field> is|contains|matches <value>, joined with and / or and (...)",
    "          '.' or $name stands for the record name, e.g.  show . contains mail",
    "Values containing spaces, quotes, parentheses or '=' must be quoted.",
    ""]

/-- The question of a stage, none if nothing is asked for. -/
def prompt (sh : Shell) : Stage → Option String
  | .masterPassword _ => some "Master password: "
  | .createNow => some "Create it now? [y/N]: "
  | .newPassword _ => some "New master password: "
  | .confirmPassword .. => some "Confirm master password: "
  | .command => some (if sh.session.isOpen then "royalguard> " else "royalguard (locked)> ")
  | .currentPassword => some "Current master password: "
  | .exitAnyway => some "Unsaved changes will be lost. Exit anyway? [y/N]: "
  | .finished _ | .crashed _ => none

/-- Whether the reply to a question must not be seen. -/
def isSecret : Stage → Bool
  | .masterPassword _ | .newPassword _ | .confirmPassword .. | .currentPassword => true
  | _ => false

/-! ### Printing -/

def print (sh : Shell) (lines : List String) : Shell :=
  { sh with output := sh.output ++ lines }

def success (sh : Shell) (message : String) : Shell :=
  sh.print [Display.success message]

def failure (sh : Shell) (message : String) : Shell :=
  sh.print [Display.failure message]

def info (sh : Shell) (message : String) : Shell :=
  sh.print [Display.info message]

def note (sh : Shell) (e : Event) : Shell :=
  { sh with world := sh.world.note e }

def isYes (text : String) : Bool :=
  Text.lowerWord (Text.trim text.toList) == ['y']

/-! ### Ends -/

def finish (sh : Shell) (code : Nat) : Stage × Shell :=
  (.finished code, sh)

def crash (sh : Shell) (e : Crash) : Stage × Shell :=
  (.crashed e, sh)

/-- Locks the vault if the dialogue is over, however it ended. -/
def lock : Stage × Shell → Stage × Shell
  | (stage, sh) => (stage, if stage.isOver then { sh with session := sh.session.close } else sh)

/-- Ends the dialogue because a question was not answered. -/
def cancel (sh : Shell) : Stage × Shell :=
  ((sh.print [""]).failure "Operation cancelled, vault locked").finish 1

/-- Ends the dialogue because the user wants to. -/
def leave (sh : Shell) : Stage × Shell :=
  (sh.success "Vault locked").finish 0

def next (sh : Shell) : Stage × Shell :=
  (.command, sh)

/-! ### Opening a vault -/

def begin (sh : Shell) : Stage × Shell :=
  (sh.info "Type 'help' for commands").next

def after {ε α : Type} (sh : Shell) (o : Outcome ε α) : Shell :=
  { sh with session := o.session, world := o.world }

/-- Asks for the password of a new vault, unless there is a vault already. -/
def startCreation (sh : Shell) : Stage × Shell :=
  if sh.world.disk.isPresent sh.session.path then
    ((sh.failure ("Vault already exists: " ++ sh.session.path.text)).info
      "Use 'unlock' to open it").finish 1
  else (.newPassword .create, sh)

def createVault (sh : Shell) (password : String) : Stage × Shell :=
  let sh := sh.success "Deriving encryption key..."
  let o := sh.session.create password sh.world
  let sh := sh.after o
  match o.result with
  | .ok () => (sh.success ("Vault created: " ++ sh.session.path.text)).begin
  | .error (.file e) => (sh.failure e.message).finish 1
  | .error e => sh.crash (.session e)

/-- Reports an attempt that did not open the vault, and asks again if there are attempts left. -/
def tryAgain (sh : Shell) (attempt : Nat) (message : String) : Stage × Shell :=
  let left := toString (maxAttempts - attempt)
  let sh := sh.failure (message ++ " (attempts remaining: " ++ left ++ ")")
  if attempt < maxAttempts then (.masterPassword (attempt + 1), sh)
  else (sh.failure "Maximum authentication attempts reached").finish 1

def unlockVault (sh : Shell) (attempt : Nat) (password : String) : Stage × Shell :=
  let o := sh.session.unlock password sh.world
  let sh := sh.after o
  match o.result with
  | .ok () =>
    let count := (sh.session.vault.map Vault.size).getD 0
    (sh.success ("Vault unlocked (" ++ toString count ++ " records)")).begin
  | .error (.noVault path) => (.createNow, sh.failure ("No vault at " ++ path))
  | .error (.corrupt e) => sh.tryAgain attempt e.message
  | .error (.sealed .notAuthentic) => sh.tryAgain attempt SealError.notAuthentic.message
  | .error (.file e) => (sh.failure e.message).finish 1
  | .error e => sh.crash (.session e)

/-! ### Saving, leaving and changing the password -/

inductive Saved where
  | yes
  | no
  | crashed (e : SessionError)

def trySave (sh : Shell) : Saved × Shell :=
  if !sh.session.isDirty then (.yes, sh.info "Nothing to save")
  else
    let o := sh.session.save sh.world
    let sh := sh.after o
    match o.result with
    | .ok () => (.yes, sh.success "Vault saved")
    | .error (.file e) =>
      (.no, (sh.note (.saveFailed e.message)).failure ("Not saved: " ++ e.message))
    | .error e => (.crashed e, sh)

/-- Leaves the dialogue. Unsaved changes get one more attempt at saving; if that fails, the user is
asked. -/
def tryLeave (sh : Shell) : Stage × Shell :=
  if !sh.session.isDirty then sh.leave
  else
    match sh.trySave with
    | (.yes, sh) => sh.leave
    | (.no, sh) => (.exitAnyway, sh)
    | (.crashed e, sh) => sh.crash (.session e)

/-- Checks the current password before a new one is asked for. -/
def checkPassword (sh : Shell) (password : String) : Stage × Shell :=
  match sh.session.verify password with
  | .ok true => (.newPassword .change, sh)
  | .ok false => (sh.failure "Current password incorrect").next
  | .error e => sh.crash (.session e)

def changePassword (sh : Shell) (password : String) : Stage × Shell :=
  let sh := sh.success "Re-encrypting vault..."
  let o := sh.session.changePassword password sh.world
  let sh := sh.after o
  match o.result with
  | .ok () => (sh.success "Master password changed").next
  | .error (.file e) => (sh.failure e.message).next
  | .error e => sh.crash (.session e)

/-! ### Commands -/

def copyValue (sh : Shell) (key value : String) : Shell :=
  let timeout := sh.settings.clipboardTimeout
  match sh.clipboard.copy value timeout with
  | .error reason =>
    (sh.note (.clipboardUnavailable reason)).failure "Clipboard unavailable"
  | .ok clipboard =>
    let how := if timeout = 0 then "" else " (clears in " ++ toString timeout ++ " seconds)"
    { sh with clipboard }.success (key ++ " copied to clipboard" ++ how)

def present (sh : Shell) (c : Command) (r : CommandResult) : Stage × Shell :=
  match c with
  | .copy _ key => (sh.copyValue key (r.copied.getD "")).next
  | .history name _ =>
    match Display.history name r.history with
    | (lines, none) => (sh.print lines).next
    | (lines, some e) => (sh.print lines).crash (.display e)
  | .show .. => (sh.print (Display.records r.records)).next
  | .importFile _ =>
    match r.report with
    | some report => (sh.print (Display.importReport report)).next
    | none => (sh.success r.message).next
  | .set _ | .delete .. | .rename .. => (sh.success r.message).next

/-- Reports a file that cannot be used by a command. When it is the vault's own, the change is kept.
-/
def reportFile (sh : Shell) (e : FileError) : Stage × Shell :=
  if e.path ≠ sh.session.path.text then (sh.failure e.message).next
  else
    (((sh.note (.saveFailed e.message)).failure ("Not saved: " ++ e.message)).info
      "The change is kept in memory; use 'save' to retry").next

/-- Whether an error of the vault is told to the user. -/
def isReported : VaultError → Bool
  | .recordNotFound _ | .recordExists _ | .fieldNotFound .. => true
  | .emptyName | .emptyKey | .repeatedKey _ => false

/-- Reads a line as a command, carries it out and prints what it yields. -/
def handle (sh : Shell) (line : String) : Stage × Shell :=
  match Command.parse line with
  | .error (.lex e) => (sh.failure e.message).next
  | .error (.parse e) => (sh.failure e.message).next
  | .error e => sh.crash (.read e)
  | .ok c =>
    let o := sh.session.execute sh.base.current c sh.world
    let sh := sh.after o
    match o.result with
    | .ok r => sh.present c r
    | .error (.session (.file e)) => sh.reportFile e
    | .error (.vault e) => if isReported e then (sh.failure e.message).next else sh.crash (.vault e)
    | .error (.session e) => sh.crash (.session e)
    | .error .tooDeep => sh.crash .tooDeep

/-- Takes a line typed at the prompt for commands. -/
def takeLine (sh : Shell) (text : String) : Stage × Shell :=
  let line := Text.trim text.toList
  if line.isEmpty then sh.next
  else
    match ShellWord.ofLine? line with
    | some .help => (sh.print helpText).next
    | some .exit => sh.tryLeave
    | some .save =>
      match sh.trySave with
      | (.crashed e, sh) => sh.crash (.session e)
      | (_, sh) => sh.next
    | some .passwd => (.currentPassword, sh)
    | none => sh.handle (String.ofList line)

/-! ### Replies -/

/-- Takes a new password, which must be long enough, and asks for it again. -/
def takePassword (sh : Shell) (purpose : Purpose) (password : String) : Stage × Shell :=
  if password.length < minPasswordLength then
    (.newPassword purpose,
      sh.failure ("Use at least " ++ toString minPasswordLength ++ " characters"))
  else (.confirmPassword purpose password, sh)

/-- Takes the new password again, and uses it if it is the same. -/
def takeConfirmation (sh : Shell) (purpose : Purpose) (first second : String) : Stage × Shell :=
  if first ≠ second then (.newPassword purpose, sh.failure "Passwords do not match")
  else
    match purpose with
    | .create => sh.createVault first
    | .change => sh.changePassword first

/-- The stage that a reply leads to, with the vault still as it is there. -/
def answer (sh : Shell) : Stage → Reply → Stage × Shell
  | .finished code, _ => (.finished code, sh)
  | .crashed e, _ => (.crashed e, sh)
  | .masterPassword attempt, .line text => sh.unlockVault attempt text
  | .createNow, .line text => if isYes text then sh.startCreation else sh.finish 1
  | .newPassword purpose, .line text => sh.takePassword purpose text
  | .confirmPassword purpose first, .line text => sh.takeConfirmation purpose first text
  | .currentPassword, .line text => sh.checkPassword text
  | .command, .line text => sh.takeLine text
  | .command, .interrupted => sh.next
  | .command, .closed => sh.tryLeave
  | .exitAnyway, .line text => if isYes text then sh.leave else sh.next
  | .exitAnyway, .interrupted => sh.next
  | .exitAnyway, .closed => (sh.failure "Input closed, unsaved changes discarded").leave
  | .masterPassword _, _ | .createNow, _ | .newPassword _, _ | .confirmPassword .., _
  | .currentPassword, _ => sh.cancel

/-- The stage that a reply leads to, where the vault is locked if it is the last one. -/
def reply (sh : Shell) (stage : Stage) (r : Reply) : Stage × Shell :=
  lock (sh.answer stage r)

end Shell

end Coffer
