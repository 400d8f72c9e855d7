import RuleTree.Pattern.Regular
import RuleTree.Unicode.Property

/-!
# Automata that search a text

A regular expression becomes a list of steps. The search follows all steps that
are possible at a position at once, so it goes through the text once and never
goes back, however the expression is built.

Steps are added from the end of the expression to its beginning: what follows is
always known when a part is added. Only a loop needs a step whose continuation
is filled in afterwards.
-/

namespace RuleTree.Pattern

/-- One step. Steps are known by their place in a list. -/
inductive Step
  | accept
  | take (runs : Array Run) (next : Nat)
  | fork (left right : Nat)
  | require (look : Look) (next : Nat)
  deriving Repr, Inhabited

/-- An automaton: its steps and the place of the first. -/
structure Automaton where
  steps : Array Step
  start : Nat
  deriving Repr

namespace Automaton

/-- Add a step and give its place. -/
def add (step : Step) (steps : Array Step) : Nat × Array Step := (steps.size, steps.push step)

mutual
/-- Add the steps of an expression that is followed by the step `next`; with them
goes the place of the first. -/
def build (next : Nat) (steps : Array Step) : Regular → Nat × Array Step
  | .empty => (next, steps)
  | .literal text =>
    text.foldr (fun c (next, steps) => add (.take #[⟨c.toNat, c.toNat⟩] next) steps) (next, steps)
  | .chars _ set => add (.take set.runs.toArray next) steps
  | .look look => add (.require look next) steps
  | .group body => build next steps body
  | .concat parts => buildAll next steps parts
  | .choice branches => buildAny next steps branches
  | .repetition low high _ body =>
    let once (state : Nat × Array Step) := build state.1 state.2 body
    let rest := match high with
      | none =>
        let (loop, steps) := add (.fork next next) steps
        let (first, steps) := build loop steps body
        (loop, steps.setIfInBounds loop (.fork first next))
      | some high =>
        Nat.repeat (fun state =>
          let (first, steps) := once state
          add (.fork first next) steps) (high - low) (next, steps)
    Nat.repeat once low rest

/-- Add the steps of expressions that follow one another. -/
def buildAll (next : Nat) (steps : Array Step) : List Regular → Nat × Array Step
  | [] => (next, steps)
  | part :: rest =>
    let (next, steps) := buildAll next steps rest
    build next steps part

/-- Add the steps of expressions of which one is to match. -/
def buildAny (next : Nat) (steps : Array Step) : List Regular → Nat × Array Step
  | [] => add (.take #[] next) steps
  | [branch] => build next steps branch
  | branch :: rest =>
    let (right, steps) := buildAny next steps rest
    let (left, steps) := build next steps branch
    add (.fork left right) steps
end

/-- The automaton of an expression. -/
def ofRegular (regular : Regular) : Automaton :=
  let (start, steps) := build 0 #[.accept] regular
  ⟨steps, start⟩

/-- The runs of characters that make words. -/
def wordRuns : Array Run := Property.word.runs.toArray

/-- Whether a character makes words. -/
def isWordChar (unicode : Bool) (c : Char) : Bool :=
  if c.toNat ≤ 0x7F then c.isAlphanum || c == '_'
  else unicode && runsContain wordRuns c.toNat 0 wordRuns.size

/-- A position in a text: the characters on its two sides, where there are any. -/
structure Place where
  before : Option Char
  after : Option Char

/-- Whether a condition holds at a position. A return and a line feed that follow
one another end one line, so no line starts or ends between them. -/
def holds (place : Place) (look : Look) : Bool :=
  let wordBefore (unicode : Bool) := place.before.any (isWordChar unicode)
  let wordAfter (unicode : Bool) := place.after.any (isWordChar unicode)
  match look with
  | .textStart => place.before.isNone
  | .textEnd => place.after.isNone
  | .lineStart => place.before.all (· == '\n')
  | .lineEnd => place.after.all (· == '\n')
  | .returnLineStart =>
    place.before.all fun c => c == '\n' || (c == '\r' && place.after != some '\n')
  | .returnLineEnd =>
    place.after.all fun c => c == '\r' || (c == '\n' && place.before != some '\r')
  | .wordBoundary unicode => wordBefore unicode != wordAfter unicode
  | .notWordBoundary unicode => wordBefore unicode == wordAfter unicode
  | .wordStart unicode => !wordBefore unicode && wordAfter unicode
  | .wordEnd unicode => wordBefore unicode && !wordAfter unicode
  | .wordStartHalf unicode => !wordBefore unicode
  | .wordEndHalf unicode => !wordAfter unicode

/-- What is known at a position: at which position each step was last visited,
the steps that wait for a character, and whether the automaton has accepted. -/
structure Front where
  visited : Array Nat
  waiting : List (Array Run × Nat)
  accepted : Bool

/-- Follow all steps that take no character. `stamp` is the number of the
position; a step visited there is not followed again. The fuel bounds the number
of steps followed. -/
def follow (automaton : Automaton) (place : Place) (stamp : Nat) :
    Nat → List Nat → Front → Front
  | 0, _, front => front
  | _ + 1, [], front => front
  | fuel + 1, step :: pending, front =>
    if front.visited.getD step stamp == stamp then
      follow automaton place stamp fuel pending front
    else
      let front := { front with visited := front.visited.setIfInBounds step stamp }
      match automaton.steps.getD step .accept with
      | .accept => { front with accepted := true }
      | .take runs next =>
        follow automaton place stamp fuel pending
          { front with waiting := (runs, next) :: front.waiting }
      | .fork left right => follow automaton place stamp fuel (left :: right :: pending) front
      | .require look next =>
        if holds place look then follow automaton place stamp fuel (next :: pending) front
        else follow automaton place stamp fuel pending front

/-- The steps reached by taking a character. -/
def advance (c : Char) (waiting : List (Array Run × Nat)) : List Nat :=
  waiting.filterMap fun (runs, next) =>
    if runsContain runs c.toNat 0 runs.size then some next else none

/-- Search the rest of a text, beginning at every position. Positions are numbered
from one. -/
def searchFrom (automaton : Automaton) (before : Option Char) (stamp : Nat)
    (reached : List Nat) (visited : Array Nat) : List Char → Bool
  | [] =>
    let pending := automaton.start :: reached
    let fuel := pending.length + 2 * automaton.steps.size + 1
    (follow automaton ⟨before, none⟩ stamp fuel pending ⟨visited, [], false⟩).accepted
  | c :: rest =>
    let pending := automaton.start :: reached
    let fuel := pending.length + 2 * automaton.steps.size + 1
    let front := follow automaton ⟨before, some c⟩ stamp fuel pending ⟨visited, [], false⟩
    if front.accepted then true
    else searchFrom automaton (some c) (stamp + 1) (advance c front.waiting) front.visited rest

/-- Whether the expression matches somewhere in the text. -/
def search (automaton : Automaton) (text : String) : Bool :=
  searchFrom automaton none 1 [] (Array.replicate automaton.steps.size 0) text.toList

end Automaton

end RuleTree.Pattern
