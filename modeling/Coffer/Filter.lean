import Coffer.Pattern
import Coffer.Record

/-!
Filters: questions about a record, joined with `and` and `or`. A filter is a formula over
predicates, and a predicate compares the record's name or the value of one of its fields with a text
or a pattern.
-/

namespace Coffer

/-- A formula over atoms. Parentheses that were written are kept. -/
inductive Formula (α : Type) where
  | atom (a : α)
  | and (left right : Formula α)
  | or (left right : Formula α)
  | group (inner : Formula α)
deriving DecidableEq, Repr

namespace Formula

/-- The truth of a formula, given that of its atoms. -/
def holds {α : Type} (test : α → Bool) : Formula α → Bool
  | atom a => test a
  | and l r => l.holds test && r.holds test
  | or l r => l.holds test || r.holds test
  | group e => e.holds test

/-- The truth of a formula that is found with at most `depth` calls inside each other, one for each
part of it; none if they do not suffice. Parts that do not matter are not looked at. -/
def within {α : Type} (test : α → Bool) : Nat → Formula α → Option Bool
  | 0, _ => none
  | _ + 1, atom a => some (test a)
  | depth + 1, and l r =>
    match l.within test depth with
    | some true => r.within test depth
    | known => known
  | depth + 1, or l r =>
    match l.within test depth with
    | some false => r.within test depth
    | known => known
  | depth + 1, group e => e.within test depth

/-- The truth of a formula whose atoms may fail to have one. Atoms are asked from left to right and
only as far as they matter. -/
def decide {α ε : Type} (test : α → Except ε Bool) : Formula α → Except ε Bool
  | atom a => test a
  | and l r => do if ← l.decide test then r.decide test else return false
  | or l r => do if ← l.decide test then return true else r.decide test
  | group e => e.decide test

/-- The written form, given those of the atoms. -/
def text {α : Type} (atomText : α → String) : Formula α → String
  | atom a => atomText a
  | and l r => l.text atomText ++ " and " ++ r.text atomText
  | or l r => l.text atomText ++ " or " ++ r.text atomText
  | group e => "(" ++ e.text atomText ++ ")"

end Formula

/-- What a predicate looks at: the record's name, or the field with a key. -/
inductive Subject where
  | name
  | field (key : String)
deriving DecidableEq, Repr

/-- The written form: a dot stands for the record's name. -/
def Subject.text : Subject → String
  | .name => "."
  | .field key => key

/-- The text that a predicate looks at, if the record has it. -/
def Subject.of (s : Subject) (r : Record) : Option String :=
  match s with
  | .name => some r.name
  | .field key => (r.field? key).map Field.value

/-- How a text is compared: it is exactly another one, it contains another one in whatever letter
case, or a pattern matches somewhere in it. -/
inductive Comparison where
  | is (value : String)
  | contains (value : String)
  | fits (pattern : Pattern)
deriving DecidableEq

namespace Comparison

def word : Comparison → String
  | is _ => "is"
  | contains _ => "contains"
  | fits _ => "matches"

def value : Comparison → String
  | is v | contains v => v
  | fits p => p.source

def occurs (part : List Char) : List Char → Bool
  | [] => part.isEmpty
  | c :: cs => part.isPrefixOf (c :: cs) || occurs part cs

def accepts (c : Comparison) (subject : String) : Bool :=
  match c with
  | is v => subject == v
  | contains v => occurs (Text.fold v.toList) (Text.fold subject.toList)
  | fits p => p.search subject

/-- The comparison that a word and a text make, or `none` if the word is none of the three. -/
def ofWord? (word value : String) : Option (Except Pattern.Error Comparison) :=
  match word with
  | "is" => some (.ok (is value))
  | "contains" => some (.ok (contains value))
  | "matches" => some ((Pattern.ofText value).map fits)
  | _ => none

end Comparison

/-- A comparison of a part of the record. A record that lacks the part fails it. -/
structure Predicate where
  subject : Subject
  comparison : Comparison
deriving DecidableEq

def Predicate.holds (p : Predicate) (r : Record) : Bool :=
  match p.subject.of r with
  | some text => p.comparison.accepts text
  | none => false

/-- The written form of a predicate. The value is not escaped. -/
def Predicate.text (p : Predicate) : String :=
  p.subject.text ++ " " ++ p.comparison.word ++ " '" ++ p.comparison.value ++ "'"

/-- A question about a record. -/
abbrev Filter := Formula Predicate

def Filter.holds (f : Filter) (r : Record) : Bool :=
  Formula.holds (·.holds r) f

/-- How many calls inside each other there is room for when a command has a filter tried. The stack
holds 1000 calls; 8 of them lead from the start of the program to the filter, and a comparison takes
3 more. -/
def Filter.maxDepth : Nat := 989

/-- Whether a record satisfies a filter, none if the filter is too deep to find out. -/
def Filter.holds? (f : Filter) (r : Record) : Option Bool :=
  Formula.within (·.holds r) maxDepth f

def Filter.describe (f : Filter) : String :=
  Formula.text Predicate.text f

end Coffer
