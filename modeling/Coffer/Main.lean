import Coffer.Log
import Coffer.Shell.Happening
import Coffer.Start
import Std.Time.DateTime.Timestamp

/-!
The program itself: the terminal, the file system and the clock around the dialogue. All that is
decided is decided by the dialogue. Before each reply the files it may need are brought into the
dialogue's file tree, and after it the vault's file is written if it has changed there.
-/

namespace Coffer.Program

/-! ### Files -/

/-- Brings the entry at a place from the file system into a file tree. -/
def fetchEntry (d : Disk) (p : Path) : IO Disk := do
  let file := (← IO.currentDir) / p.text
  if ← file.isDir then return d.put p .folder
  else if ← file.pathExists then return d.put p (.file (← IO.FS.readBinFile file).data.toList)
  else return { d with entries := d.entries.filter (·.1 ≠ p) }

/-- Brings the entry at a place and the folders it lies in. -/
def fetch (d : Disk) (p : Path) : IO Disk :=
  (List.range p.names.length).foldlM
    (fun d n => fetchEntry d { p with names := p.names.take (n + 1) }) d

/-- Brings all that is met on the way along a path as it is written. -/
def fetchWritten (d : Disk) (current : Path) (path : String) : IO Disk :=
  let start := if Path.isRooted path then current.root else current
  let names := Path.parts path
  (List.range (names.length + 1)).foldlM
    (fun d n => fetch d ((names.take n).foldl Path.step start)) d

/-- Writes a file by way of another one beside it, and tells whether that worked. -/
def store (p : Path) (contents : Bytes) : IO Bool := do
  let here ← IO.currentDir
  let draft := here / (p.text ++ ".new")
  try
    IO.FS.createDirAll (here / p.parent.text)
    IO.FS.writeBinFile draft ⟨contents.toArray⟩
    IO.FS.rename draft (here / p.text)
    return true
  catch _ => return false

/-! ### Surroundings -/

def now : IO Timestamp := do
  let t ← Std.Time.Timestamp.now
  return .utc (t.toNanosecondsSinceUnixEpoch.val / 1000)

/-- Bytes that nobody can foresee: the tags of numbers under a random key. -/
def unforeseen (key : Bytes) (purpose : UInt8) (call size : Nat) : Bytes :=
  (Hmac.tag key (purpose :: Bytes.littleEndian 8 call)).take size

/-- The surroundings with new randomness, the present moment, and the vault's file as it is. -/
def refresh (w : World) (vault : Path) : IO World := do
  let key := (← IO.getRandomBytes 32).data.toList
  return { w with
    disk := ← fetch w.disk vault
    random := ⟨unforeseen key 0, 0⟩
    ids := ⟨fun n => .ofRandom (unforeseen key 1 n 16), 0⟩
    now := ← now }

/-- The shell before a reply is taken. A file to be imported is brought along. -/
def prepare (sh : Shell) (r : Reply) : IO Shell := do
  let world ← refresh sh.world sh.session.path
  let disk ← match r with
    | .line text =>
      match Command.parse text with
      | .ok (.importFile path) => fetchWritten world.disk sh.base.current path
      | _ => pure world.disk
    | _ => pure world.disk
  return { sh with world := { world with disk } }

/-! ### The dialogue -/

/-- Takes a reply and writes the vault's file if it changes. If it cannot be written, the reply is
taken as on a disk without space. -/
def settle (stage : Stage) (sh : Shell) (r : Reply) : IO (Stage × Shell) := do
  let next := Shell.react (stage, sh) (.reply r)
  let old := (sh.world.disk.read sh.session.path).toOption
  match (next.2.world.disk.read sh.session.path).toOption with
  | none => return next
  | some contents =>
    if old == some contents then return next
    else if ← store sh.session.path contents then return next
    else return Shell.run (stage, sh) [.diskFull true, .reply r, .diskFull false]

/-- Writes log lines with the time in front, to the terminal and to the log file. -/
def writeNotes (settings : Settings) (base : Base) (isVerbose : Bool) (events : List Event) :
    IO Unit := do
  let levels := [consoleLevel isVerbose, settings.logLevel.number]
  let stamp := Timestamp.stamp (← now).wall
  let lines := logLines levels (events.map Event.note)
  for line in lines[0]?.getD [] do
    IO.eprintln (String.ofList (stamp.drop 11) ++ " | " ++ line)
  if let some path := settings.logFile then
    let date := String.ofList (stamp.map fun c => if c = '/' then '-' else c)
    let file := (← IO.currentDir) / (Path.absolute base path).text
    IO.FS.withFile file .append fun handle =>
      for line in lines[1]?.getD [] do
        handle.putStrLn (date ++ " | " ++ line)

/-- Prints what is to be printed, writes what is to be noted, and forgets both. -/
def flush (sh : Shell) (isVerbose : Bool) : IO Shell := do
  for line in sh.output do
    IO.println line
  writeNotes sh.settings sh.base isVerbose sh.world.events
  return { sh with output := [], world := { sh.world with events := [] } }

def ask (question : String) : IO Reply := do
  IO.print question
  (← IO.getStdout).flush
  let line ← (← IO.getStdin).getLine
  if line.isEmpty then return .closed
  else return .line (String.ofList (line.toList.takeWhile (· != '\n')))

/-- Goes on with a dialogue until it is over, and yields the exit code. -/
partial def converse (stage : Stage) (sh : Shell) (isVerbose : Bool) : IO UInt32 := do
  let sh ← flush sh isVerbose
  match stage, sh.prompt stage with
  | .finished code, _ => return code.toUInt32
  | _, none => return 1
  | _, some question =>
    let r ← ask question
    let (stage, sh) ← settle stage (← prepare sh r) r
    converse stage sh isVerbose

def environment : IO Settings.Environment :=
  ["ROYALGUARD_VAULT", "ROYALGUARD_LOG_FILE", "ROYALGUARD_LOG_LEVEL",
    "ROYALGUARD_CLIPBOARD_TIMEOUT"].filterMapM fun key =>
      return (← IO.getEnv key).map (key, ·)

def start (args : List String) (settings : Settings) : IO UInt32 := do
  let root : Base := ⟨⟨false, []⟩, ⟨false, []⟩⟩
  let current := Path.absolute root (← IO.currentDir).toString
  let base : Base := ⟨current, Path.absolute root ((← IO.getEnv "HOME").getD "/")⟩
  let vault := match CommandLine.read args with
    | some (.call _ vault _) => (settings.withVault vault).vaultPath
    | _ => settings.vaultPath
  let places := current :: (vault :: settings.logFile.toList).map (Path.absolute base)
  let world : World := {
    disk := ← places.foldlM fetch .empty
    random := ⟨fun _ _ => [], 0⟩
    ids := ⟨fun _ => ⟨0⟩, 0⟩
    now := ← now }
  match Start.ofArguments args settings base world with
  | .explanation lines _ =>
    lines.forM IO.println
    return 0
  | .noExplanation _ => return 1
  | .misused =>
    CommandLine.programHelp.take 1 |>.forM IO.eprintln
    return 2
  | .noLogFile e =>
    IO.eprintln (Display.failure e.reason)
    return 1
  | .dialogue stage sh isVerbose =>
    if let some path := settings.logFile then
      let file := (← IO.currentDir) / (Path.absolute base path).parent.text
      IO.FS.createDirAll file
    let clipboard := { sh.clipboard with fault := some "no clipboard can be reached" }
    converse stage { sh with clipboard } isVerbose

end Coffer.Program

open Coffer in
def main (args : List String) : IO UInt32 := do
  match Settings.ofEnvironment (← Program.environment) with
  | .error e =>
    IO.println (Display.failure ("Configuration error: " ++ e.message))
    return 1
  | .ok settings => Program.start args settings
