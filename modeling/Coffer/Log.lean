import Coffer.Event
import Coffer.Log.Redact
import Coffer.Log.Template

/-!
Log lines. A note goes to one handler after the other. Each takes the notes from some level on, and
hides passwords in a note before writing it; the note stays redacted for the handlers behind.
-/

namespace Coffer

namespace Note

/-- The number of a level's name, in any letter case; besides the usual names there are three more.
-/
def levelNamed? (name : String) : Option Int :=
  let name := String.ofList (Text.upper name.toList)
  match LogLevel.ofName? name with
  | some level => some level.number
  | none =>
    [("WARN", LogLevel.warning.number), ("FATAL", LogLevel.critical.number),
      ("NOTSET", 0)].lookup name

/-- An argument with passwords hidden. -/
def redactArg : Json → Json
  | .str s => .str (redact s)
  | v => v

/-- The note with passwords hidden in its text and in each argument by itself. The members of a
single object are left alone. -/
def redacted (n : Note) : Note :=
  { n with
    template := redact n.template
    args :=
      if (Template.Supply.ofArgs n.args).members.isSome then n.args else n.args.map redactArg }

/-- The line of a note, without its time; none if the arguments do not fit the text. -/
def line? (n : Note) : Option String :=
  (Template.fill n.template n.args).toOption.map fun message =>
    let name := LogLevel.nameOf n.level
    let fill := String.ofList (List.replicate (8 - name.length) ' ')
    name ++ fill ++ " | " ++ n.source ++ " | " ++ message

/-- The lines that handlers of some levels write, in the order of the handlers. -/
def lines (n : Note) : List Int → List (Option String)
  | [] => []
  | level :: rest =>
    if level ≤ n.level then
      let n := n.redacted
      n.line? :: n.lines rest
    else none :: n.lines rest

/-- Whether a note comes from this program and is urgent enough to be noted. -/
def isOurs (n : Note) : Bool :=
  LogLevel.debug.number ≤ n.level &&
    (n.source == "royalguard" || "royalguard.".toList.isPrefixOf n.source.toList)

end Note

/-- The lines that each of some handlers writes for a sequence of notes. -/
def logLines (levels : List Int) (notes : List Note) : List (List String) :=
  let written := (notes.filter Note.isOurs).map (·.lines levels)
  (List.range levels.length).map fun i => written.filterMap fun ls => (ls[i]?).join

def consoleLevel (verbose : Bool) : Int :=
  if verbose then LogLevel.debug.number else LogLevel.warning.number

end Coffer
