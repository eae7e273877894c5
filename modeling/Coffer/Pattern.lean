import Coffer.Pattern.Matcher
import Coffer.Pattern.Parser

/-!
Patterns: texts that describe texts. A `Pattern` is one that has been read without complaint and is
ready for searching.
-/

namespace Coffer

def Pattern.program? (source : String) : Except Pattern.Error Pattern.Program := do
  let parsed ← Pattern.parse source.toList
  Pattern.Program.ofNodes parsed.nodes parsed.flags parsed.groups

/-- A text that reads as a pattern, with what it reads as. -/
structure Pattern where
  source : String
  program : Pattern.Program
  program?_source : Pattern.program? source = .ok program

namespace Pattern

def ofText (source : String) : Except Error Pattern :=
  match h : program? source with
  | .ok program => .ok ⟨source, program, h⟩
  | .error e => .error e

@[ext]
theorem ext {p q : Pattern} (h : p.source = q.source) : p = q := by
  obtain ⟨s, a, ha⟩ := p
  obtain ⟨t, b, hb⟩ := q
  cases h
  have : a = b := by rw [ha] at hb; exact Except.ok.inj hb
  cases this
  rfl

instance : DecidableEq Pattern := fun p q =>
  decidable_of_iff (p.source = q.source) ⟨ext, fun h => h ▸ rfl⟩

def search (p : Pattern) (text : String) : Bool :=
  p.program.search text.toList

end Pattern

end Coffer
