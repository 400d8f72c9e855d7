import RuleTree.Pattern.Automaton
import RuleTree.Pattern.Meaning
import RuleTree.Pattern.Reader
import RuleTree.Pattern.Size

/-!
# Compiled patterns

A matcher is a pattern that has been compiled. The automaton depends on the
pattern alone, and the type says so: a matcher holds the proof that compiling
its source gives its automaton. Hence two matchers of one source are equal, and
a source taken from a matcher compiles again.
-/

namespace RuleTree

/-- The automaton of a pattern, unless the pattern is malformed, has no meaning
or is too large. -/
def Pattern.compile? (pattern : String) : Option Pattern.Automaton := do
  let written ← Pattern.Reader.read? pattern
  let regular ← written.meaning?
  if Pattern.Size.isWithinLimit regular then some (.ofRegular regular) else none

/-- A pattern together with its automaton. -/
structure Matcher where
  source : String
  automaton : Pattern.Automaton
  compiled : Pattern.compile? source = some automaton

namespace Matcher

/-- Compile a pattern. -/
def compile? (source : String) : Option Matcher :=
  match compiled : Pattern.compile? source with
  | some automaton => some ⟨source, automaton, compiled⟩
  | none => none

/-- Whether the pattern matches somewhere in the text. -/
def isMatch (matcher : Matcher) (text : String) : Bool := matcher.automaton.search text

/-- Matchers of one source are equal. -/
theorem ext_source {first second : Matcher} (same : first.source = second.source) :
    first = second := by
  obtain ⟨source, automaton, compiled⟩ := first
  obtain ⟨source', automaton', compiled'⟩ := second
  obtain rfl : source = source' := same
  obtain rfl : automaton = automaton' := Option.some.inj (compiled.symm.trans compiled')
  rfl

instance : DecidableEq Matcher := fun first second =>
  decidable_of_iff (first.source = second.source) ⟨ext_source, fun same => same ▸ rfl⟩

/-- The source of a matcher compiles again, to the same matcher. -/
theorem compile?_source (matcher : Matcher) : compile? matcher.source = some matcher := by
  unfold compile?
  split
  · exact congrArg some (ext_source rfl)
  · rename_i refused
    rw [matcher.compiled] at refused
    cases refused

end Matcher

end RuleTree
