import Coffer.Log.Template
import Coffer.Text.Digit
import Coffer.Text.Wrap

/-!
The arguments the program is started with: a verb, and options that start with dashes. Long options
may be shortened as long as no other one starts the same, and short ones may be run together.
-/

namespace Coffer.CommandLine

inductive Verb where
  | init
  | unlock
deriving DecidableEq, Repr

def Verb.name : Verb → String
  | .init => "init"
  | .unlock => "unlock"

inductive Request where
  /-- To do something, perhaps with a vault of that path, perhaps with more notes on the
  terminal. -/
  | call (verb : Verb) (vault : Option String) (verbose : Bool)
  /-- To explain itself, or one of its verbs. -/
  | help (topic : Option Verb)
  /-- The arguments make no sense. -/
  | misused
deriving DecidableEq, Repr

inductive Switch where
  | help
  | verbose
  | vault
deriving DecidableEq, Repr

def outerNames : List (List Char × Switch) :=
  [("-h".toList, .help), ("--help".toList, .help)]

def innerNames : List (List Char × Switch) :=
  outerNames ++
    [("--vault".toList, .vault), ("--verbose".toList, .verbose), ("-v".toList, .verbose)]

/-- What an argument is: an option, by the name it goes by, perhaps with a value in the same
argument; an option that is not known; an option name cut too short; or anything else. -/
inductive Argument where
  | switch (s : Switch) (name : List Char) (value : Option (List Char))
  | unknown
  | ambiguous
  | plain
deriving DecidableEq, Repr

/-- Whether digits, perhaps with a point among them, follow a dash; a line feed may end them. -/
def isNegativeNumber : List Char → Bool
  | '-' :: cs =>
    let cs := if cs.getLast? = some '\n' then cs.dropLast else cs
    let rest := cs.dropWhile Text.isDigit
    (rest.isEmpty && !cs.isEmpty) ||
      match rest with
      | '.' :: part => !part.isEmpty && part.all Text.isDigit
      | _ => false
  | _ => false

def cutAtEquals (cs : List Char) : List Char × Option (List Char) :=
  match cs.dropWhile (· != '=') with
  | [] => (cs, none)
  | _ :: value => (cs.takeWhile (· != '='), some value)

/-- The options that an argument may be short for, or run together with. -/
def candidates (names : List (List Char × Switch)) (cs : List Char) : List Argument :=
  if "--".toList.isPrefixOf cs then
    let (start, value) := cutAtEquals cs
    (names.filter fun (name, _) => start.isPrefixOf name).map fun (name, s) => .switch s name value
  else
    names.filterMap fun (name, s) =>
      if name = cs.take 2 then some (.switch s name (some (cs.drop 2)))
      else if cs.isPrefixOf name then some (.switch s name none)
      else none

def classify (names : List (List Char × Switch)) (cs : List Char) : Argument :=
  let (start, value) := cutAtEquals cs
  if cs.head? ≠ some '-' then .plain
  else if let some s := names.lookup cs then .switch s cs none
  else if cs.length = 1 then .plain
  else if let (some s, some value) := (names.lookup start, value) then .switch s start (some value)
  else
    match candidates names cs with
    | [a] => a
    | _ :: _ :: _ => .ambiguous
    | [] => if isNegativeNumber cs ∨ ' ' ∈ cs then .plain else .unknown

/-- The options without a value that short names run together stand for, if they all do. -/
def cluster (names : List (List Char × Switch)) : Switch → List Char → Option (List Switch)
  | s, [] => some [s]
  | s, c :: cs => do
    let next ← names.lookup ['-', c]
    if s = .vault then none
    return s :: (← cluster names next cs)

/-- The options without a value that an argument stands for, if it stands for nothing else. -/
def flags (names : List (List Char × Switch)) (s : Switch) (name : List Char)
    (value : Option (List Char)) : Option (List Switch) :=
  match value with
  | none => some [s]
  | some [] => none
  | some (c :: cs) => if "--".toList.isPrefixOf name then none else cluster names s (c :: cs)

/-- What has been said behind the verb; `stray` tells whether there were arguments that mean
nothing. -/
structure Choice where
  vault : Option String := none
  verbose : Bool := false
  stray : Bool := false

def readInner (verb : Verb) (c : Choice) : List (List Char) → Request
  | [] => if c.stray then .misused else .call verb c.vault c.verbose
  | arg :: rest =>
    if arg = "--".toList then .misused
    else
      match classify innerNames arg with
      | .ambiguous => .misused
      | .plain | .unknown => readInner verb { c with stray := true } rest
      | .switch .vault _ (some value) =>
        readInner verb { c with vault := some (String.ofList value) } rest
      | .switch .vault _ none =>
        match rest with
        | [] => .misused
        | value :: rest =>
          if value = "--".toList ∨ classify innerNames value ≠ .plain then .misused
          else readInner verb { c with vault := some (String.ofList value) } rest
      | .switch s name value =>
        match flags innerNames s name value with
        | none => .misused
        | some ss =>
          if .help ∈ ss then .help (some verb) else readInner verb { c with verbose := true } rest

/-- Whether an option name before any double dash is cut too short. -/
def hasAmbiguous (args : List (List Char)) : Bool :=
  (args.takeWhile (· != "--".toList)).any fun arg => classify innerNames arg == .ambiguous

/-- Reads the arguments up to the verb, and those behind it. -/
def readOuter (stray : Bool) : List (List Char) → Option Request
  | [] => if stray then some .misused else none
  | arg :: rest =>
    if arg = "--".toList then some .misused
    else
      match classify outerNames arg with
      | .plain =>
        match [Verb.init, .unlock].find? fun v => v.name.toList == arg with
        | none => some .misused
        | some verb =>
          if hasAmbiguous rest then some .misused else some (readInner verb { stray } rest)
      | .switch s name value =>
        match flags outerNames s name value with
        | none => some .misused
        | some _ => some (.help none)
      | _ => readOuter true rest

/-- What the program is started for; without a verb it is to explain itself, and that is no failure.
-/
def read (args : List String) : Option Request :=
  readOuter false (args.map String.toList)

/-! ### Explanations -/

def programHelp : List String :=
  ["usage: royalguard [-h] \x7binit,unlock\x7d ...",
    "",
    "Royalguard keeps named records of secrets in an encrypted local vault, with field history " ++
      "and a filter language for queries.",
    "",
    "positional arguments:",
    "  \x7binit,unlock\x7d  Available operations",
    "    init         Create a new encrypted vault",
    "    unlock       Unlock a vault for interactive use",
    "",
    "options:",
    "  -h, --help     show this help message and exit"]

/-- The width of an explanation of an option, and of what stands before it. -/
def helpWidth : Nat := 61
def helpIndent : Nat := 17

/-- What gaps in the explanation of the option that names a vault are filled with: what is known of
the option itself. -/
def vaultOption (verb : Verb) (explanation : String) : Json :=
  .obj [("option_strings", .arr [.str "--vault"]), ("dest", .str "vault"), ("nargs", .null),
    ("const", .null), ("default", .null), ("type", .null), ("choices", .null),
    ("required", .bool false), ("help", .str explanation), ("metavar", .null),
    ("prog", .str ("royalguard " ++ verb.name))]

/-- How a verb is explained. A percent sign in the usual path of a vault makes a gap in the
explanation, which may not be one that can be filled. -/
def verbHelp (verb : Verb) (vaultPath : String) : Except Template.Error (List String) := do
  let indent := String.ofList (List.replicate helpIndent ' ')
  let template := "Vault file path (default: " ++ vaultPath ++ ")"
  let explanation ← Template.fill template [vaultOption verb template]
  let vault := match (Text.wrap helpWidth explanation.toList).map String.ofList with
    | [] => ["  --vault VAULT"]
    | first :: rest => ("  --vault VAULT  " ++ first) :: rest.map (indent ++ ·)
  return ["usage: royalguard " ++ verb.name ++ " [-h] [--vault VAULT] [--verbose]",
    "",
    "options:",
    "  -h, --help     show this help message and exit"] ++ vault ++
    ["  --verbose, -v  Log debug output to stderr"]

end Coffer.CommandLine
