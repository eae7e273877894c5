import Coffer.CommandLine
import Coffer.Shell

/-!
The start of the program: from its arguments and settings to an explanation or to the first question
of a dialogue.
-/

namespace Coffer

inductive Start where
  /-- It explains itself; `isAsked` tells whether it was asked to. -/
  | explanation (lines : List String) (isAsked : Bool)
  /-- It was asked to explain itself, but the usual path of a vault does not fit the explanation. -/
  | noExplanation (e : Template.Error)
  /-- It was called in a way that makes no sense. -/
  | misused
  /-- It cannot open its log file. -/
  | noLogFile (e : DiskError)
  /-- It starts a dialogue; `isVerbose` tells whether more notes go to the terminal. -/
  | dialogue (stage : Stage) (shell : Shell) (isVerbose : Bool)

namespace Start

open CommandLine (Verb)

def openLogFile (d : Disk) (p : Path) : Except DiskError Disk :=
  match d.makeFolders p.parent with
  | (.error e, _) => .error e
  | (.ok (), d) =>
    match d.read p with
    | .ok _ => .ok d
    | .error .notFound => .ok (d.put p (.file []))
    | .error e => .error e

def withLogFile (settings : Settings) (base : Base) (w : World) : Except DiskError World :=
  match settings.logFile with
  | none => .ok w
  | some path => (openLogFile w.disk (Path.absolute base path)).map fun disk => { w with disk }

def openDialogue (verb : Verb) (settings : Settings) (base : Base) (w : World) : Stage × Shell :=
  let session := Session.new (settings.resolvedVaultPath base) settings.params
  let shell : Shell := { settings, base, session, world := w }
  match verb with
  | .init => Shell.lock shell.startCreation
  | .unlock => (.masterPassword 1, shell)

def ofArguments (args : List String) (settings : Settings) (base : Base) (w : World) : Start :=
  match CommandLine.read args with
  | none => .explanation CommandLine.programHelp false
  | some .misused => .misused
  | some (.help none) => .explanation CommandLine.programHelp true
  | some (.help (some verb)) =>
    match CommandLine.verbHelp verb settings.vaultPath with
    | .ok lines => .explanation lines true
    | .error e => .noExplanation e
  | some (.call verb vault isVerbose) =>
    match withLogFile settings base w with
    | .error e => .noLogFile e
    | .ok w =>
      let (stage, shell) := openDialogue verb (settings.withVault vault) base w
      .dialogue stage shell isVerbose

end Start

end Coffer
