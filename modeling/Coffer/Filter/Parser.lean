import Coffer.Filter
import Coffer.Token.Lexer

/-!
Reading a filter from tokens, one token at a time. `and` binds tighter than `or`, both group to the
left, and parentheses nest. What has been read is a stack of open parentheses, each with what stands
to the left inside it; besides that it matters only what may come next.
-/

namespace Coffer

inductive ParseError.Cause where
  | expected (what : String) (found : Token)
  | unexpected (found : Token)
  | unbalancedClose
  | unbalancedOpen (found : Token)
  | unknownReference (found : Token)
  | unknownCommand (word : String)
  | empty (what : String)
  | repeatedKey (key : String)
  | invalidPattern (source : String) (problem : Pattern.Problem) (offset : Option Nat)
deriving DecidableEq, Repr

structure ParseError where
  cause : ParseError.Cause
  position : Nat
deriving DecidableEq, Repr

/-- The complaint without its offset. -/
def ParseError.Cause.message : ParseError.Cause → String
  | .expected what found => "expected " ++ what ++ ", found " ++ found.describe
  | .unexpected found => "unexpected " ++ found.describe
  | .unbalancedClose => "unbalanced ')'"
  | .unbalancedOpen found => "unbalanced '(': expected ')', found " ++ found.describe
  | .unknownReference found => "unknown reference after '$': " ++ found.describe
  | .unknownCommand word => "unknown command '" ++ word ++ "'"
  | .empty what => what ++ " must not be empty"
  | .repeatedKey key => "field '" ++ key ++ "' given more than once"
  | .invalidPattern source problem offset =>
    "invalid pattern " ++ Pattern.shown source ++ ": " ++ problem.report offset source.toList

def ParseError.message (e : ParseError) : String :=
  atPosition e.cause.message e.position

/-- Why a text or a sequence of tokens cannot be read. Two faults of a pattern have no complaint of
their own: counts that are too large, and values that do not go together. -/
inductive ReadError where
  | lex (e : LexError)
  | parse (e : ParseError)
  | countTooLarge
  | badPatternValue
deriving DecidableEq, Repr

def Token.fault (t : Token) (cause : ParseError.Cause) : ReadError :=
  .parse ⟨cause, t.position⟩

def Token.patternFault (t : Token) : Pattern.Error → ReadError
  | .malformed problem offset => t.fault (.invalidPattern t.text problem offset)
  | .countTooLarge => .countTooLarge
  | .countTooLong | .conflictingFlags => .badPatternValue

namespace Filter

/-- What has been read inside a pair of parentheses, or outside all: the alternatives before the
last `or`, and behind it the parts before the last `and`. -/
structure Level where
  alternatives : Option Filter
  parts : Option Filter
deriving DecidableEq

namespace Level

def empty : Level :=
  ⟨none, none⟩

/-- The parts read so far and one more. -/
def conjoin (l : Level) (e : Filter) : Filter :=
  match l.parts with
  | none => e
  | some p => .and p e

/-- All that has been read, with one more part. -/
def close (l : Level) (e : Filter) : Filter :=
  match l.alternatives with
  | none => l.conjoin e
  | some a => .or a (l.conjoin e)

def afterAnd (l : Level) (e : Filter) : Level :=
  { l with parts := some (l.conjoin e) }

def afterOr (l : Level) (e : Filter) : Level :=
  ⟨some (l.close e), none⟩

end Level

inductive Expect where
  /-- A parenthesis or the subject of a predicate. -/
  | operand
  /-- The word behind a dollar sign. -/
  | reference
  /-- The word for the comparison. -/
  | comparison (subject : Subject)
  /-- The text compared with; the word for the comparison has been read. -/
  | value (subject : Subject) (word : String)
  /-- Whatever may follow a complete part. -/
  | after (e : Filter)
deriving DecidableEq

/-- A filter that is being read: the innermost level, those around it, and what has to come next. -/
structure State where
  level : Level
  outer : List Level
  expect : Expect
deriving DecidableEq

def State.start : State :=
  ⟨.empty, [], .operand⟩

def comparisonWords : List String :=
  ["is", "contains", "matches"]

/-- Takes a token that is not the sentinel. -/
def State.step (s : State) (t : Token) : Except ReadError State :=
  match s.expect with
  | .operand =>
    if t.isPunctuation "(" then .ok ⟨.empty, s.level :: s.outer, .operand⟩
    else if t.isPunctuation "." then .ok { s with expect := .comparison .name }
    else if t.isPunctuation "$" then .ok { s with expect := .reference }
    else if t.isValue then .ok { s with expect := .comparison (.field t.text) }
    else .error (t.fault (.expected "a field name" t))
  | .reference =>
    if t.isWord "name" then .ok { s with expect := .comparison .name }
    else .error (t.fault (.unknownReference t))
  | .comparison subject =>
    if t.kind = .keyword ∧ t.text ∈ comparisonWords then
      .ok { s with expect := .value subject t.text }
    else .error (t.fault (.expected "an operator (is, contains, matches)" t))
  | .value subject word =>
    if t.isValue then
      match Comparison.ofWord? word t.text with
      | some (.ok c) => .ok { s with expect := .after (.atom ⟨subject, c⟩) }
      | some (.error e) => .error (t.patternFault e)
      | none => .error (t.fault (.expected "a value" t))
    else .error (t.fault (.expected "a value" t))
  | .after e =>
    if t.isKeyword "and" then .ok { s with level := s.level.afterAnd e, expect := .operand }
    else if t.isKeyword "or" then .ok { s with level := s.level.afterOr e, expect := .operand }
    else
      match s.outer with
      | l :: outer =>
        if t.isPunctuation ")" then .ok ⟨l, outer, .after (.group (s.level.close e))⟩
        else .error (t.fault (.unbalancedOpen t))
      | [] =>
        if t.isPunctuation ")" then .error (t.fault .unbalancedClose)
        else .error (t.fault (.unexpected t))

/-- Takes the sentinel: the filter read, if it is complete. -/
def State.finish (s : State) (t : Token) : Except ReadError Filter :=
  match s.expect with
  | .operand => .error (t.fault (.expected "a field name" t))
  | .reference => .error (t.fault (.unknownReference t))
  | .comparison _ => .error (t.fault (.expected "an operator (is, contains, matches)" t))
  | .value .. => .error (t.fault (.expected "a value" t))
  | .after e =>
    if s.outer.isEmpty then .ok (s.level.close e) else .error (t.fault (.unbalancedOpen t))

/-- Takes tokens up to the first sentinel. -/
def State.run (s : State) : List Token → Except ReadError Filter
  | [] => s.finish (.stop 0)
  | t :: ts => if t.isStop then s.finish t else (s.step t).bind (·.run ts)

def ofTokens (ts : List Token) : Except ReadError Filter :=
  State.start.run (Token.terminated ts)

def parse (text : String) : Except ReadError Filter :=
  match Token.tokenize text with
  | .ok ts => ofTokens ts
  | .error e => .error (.lex e)

end Filter

end Coffer
