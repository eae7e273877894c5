import Coffer.Text.Quoted

/-!
What can be wrong with a pattern, and how it is said. Most complaints point at an offset of the
pattern.
-/

namespace Coffer.Pattern

inductive Greed where
  | greedy
  | lazy
  | possessive
deriving DecidableEq, Repr

inductive Problem where
  | badEscape (escape : String)
  | escapeAtEnd
  | incompleteEscape (escape : String)
  | missingBrace
  | missingName (what : String)
  | unterminatedName (terminator : String)
  | undefinedCharacterName (name : String)
  | octalOutOfRange (escape : String)
  | openGroupReference
  | lookbehindGroupReference
  | invalidGroupReference (group : Nat)
  | unterminatedSet
  | badRange (first last : String)
  | minExceedsMax
  | nothingToRepeat
  | multipleRepeat
  | unexpectedEnd
  | badGroupName (name : String)
  | unknownGroupName (name : String)
  | redefinedGroup (name : String) (group earlier : Nat)
  | unknownExtension (text : String)
  | unterminatedComment
  | unterminatedGroup
  | badGroupNumber
  | tooManyBranches
  | misplacedFlags
  | localeFlag
  | incompatibleFlags
  | unknownFlag
  | missingFlagEnd
  | missingFlag
  | missingColon
  | globalFlagTurnedOn
  | globalFlagTurnedOff
  | typeFlagTurnedOff
  | flagOnAndOff
  | unbalancedParenthesis
  | lookbehindTooFar
  | lookbehindWidth
  | templateRepeat (greed : Greed)
deriving DecidableEq, Repr

/-- The one-line form of a text in a complaint. -/
def shown (s : String) : String :=
  String.ofList (Text.quoted s.toList)

/-- The name of a repetition inside a template. -/
def Greed.label : Greed → String
  | .greedy => "MAX_REPEAT"
  | .lazy => "MIN_REPEAT"
  | .possessive => "POSSESSIVE_REPEAT"

def Problem.message : Problem → String
  | .badEscape escape => "bad escape " ++ escape
  | .escapeAtEnd => "bad escape (end of pattern)"
  | .incompleteEscape escape => "incomplete escape " ++ escape
  | .missingBrace => "missing \x7b"
  | .missingName what => "missing " ++ what
  | .unterminatedName terminator => "missing " ++ terminator ++ ", unterminated name"
  | .undefinedCharacterName name => "undefined character name " ++ shown name
  | .octalOutOfRange escape => "octal escape value " ++ escape ++ " outside of range 0-0o377"
  | .openGroupReference => "cannot refer to an open group"
  | .lookbehindGroupReference =>
    "cannot refer to group defined in the same lookbehind subpattern"
  | .invalidGroupReference group => "invalid group reference " ++ toString group
  | .unterminatedSet => "unterminated character set"
  | .badRange first last => "bad character range " ++ first ++ "-" ++ last
  | .minExceedsMax => "min repeat greater than max repeat"
  | .nothingToRepeat => "nothing to repeat"
  | .multipleRepeat => "multiple repeat"
  | .unexpectedEnd => "unexpected end of pattern"
  | .badGroupName name => "bad character in group name " ++ shown name
  | .unknownGroupName name => "unknown group name " ++ shown name
  | .redefinedGroup name group earlier =>
    "redefinition of group name " ++ shown name ++ " as group " ++ toString group ++
      "; was group " ++ toString earlier
  | .unknownExtension text => "unknown extension " ++ text
  | .unterminatedComment => "missing ), unterminated comment"
  | .unterminatedGroup => "missing ), unterminated subpattern"
  | .badGroupNumber => "bad group number"
  | .tooManyBranches => "conditional backref with more than two branches"
  | .misplacedFlags => "global flags not at the start of the expression"
  | .localeFlag => "bad inline flags: cannot use 'L' flag with a str pattern"
  | .incompatibleFlags => "bad inline flags: flags 'a', 'u' and 'L' are incompatible"
  | .unknownFlag => "unknown flag"
  | .missingFlagEnd => "missing -, : or )"
  | .missingFlag => "missing flag"
  | .missingColon => "missing :"
  | .globalFlagTurnedOn => "bad inline flags: cannot turn on global flag"
  | .globalFlagTurnedOff => "bad inline flags: cannot turn off global flag"
  | .typeFlagTurnedOff => "bad inline flags: cannot turn off flags 'a', 'u' and 'L'"
  | .flagOnAndOff => "bad inline flags: flag turned on and off"
  | .unbalancedParenthesis => "unbalanced parenthesis"
  | .lookbehindTooFar => "looks too much behind"
  | .lookbehindWidth => "look-behind requires fixed-width pattern"
  | .templateRepeat greed => "internal: unsupported template operator " ++ greed.label

/-- Why a text is no pattern. Beside the complaints with a text of their own there are three
failures that no complaint describes: a repetition count too large to count to, a count with too
many digits to read, and flags that exclude each other. -/
inductive Error where
  | malformed (problem : Problem) (position : Option Nat)
  | countTooLarge
  | countTooLong
  | conflictingFlags
deriving DecidableEq, Repr

/-- The offset of a position in its line, counted from one, and the number of that line. -/
def lineAndColumn (pattern : List Char) (position : Nat) : Nat × Nat :=
  let before := pattern.take position
  (before.count '\n' + 1, (before.reverse.takeWhile (· != '\n')).length + 1)

/-- The text of a complaint about `pattern`: with its offset, and with line and column when the
pattern has several lines. -/
def Problem.report (problem : Problem) (position : Option Nat) (pattern : List Char) : String :=
  match position with
  | none => problem.message
  | some p =>
    let place := problem.message ++ " at position " ++ toString p
    if '\n' ∈ pattern then
      let (line, column) := lineAndColumn pattern p
      place ++ " (line " ++ toString line ++ ", column " ++ toString column ++ ")"
    else place

end Coffer.Pattern
