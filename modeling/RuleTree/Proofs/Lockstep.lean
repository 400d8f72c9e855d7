import RuleTree.Proofs.Correspondence

/-!
# Machines in lockstep

Two machines run in lockstep if from states that match they answer alike whatever
they are asked, and come to states that match again. An evaluation can then not
tell them apart: it has one result on both. What it means to match is left open.
A machine that is watched matches the machine that watches it, two stores match
if they hold the same under the names that are looked at, and a machine matches
itself as long as an invariant holds.
-/

namespace RuleTree

variable {ρ ρ' ε α β : Type}

/-- Two outcomes are alike if their results are the same and their states match. -/
def Alike (Match : ρ → ρ' → Prop) (outcome : Except ε α × ρ) (outcome' : Except ε α × ρ') : Prop :=
  outcome.1 = outcome'.1 ∧ Match outcome.2 outcome'.2

/-- Two machines that answer alike from states that match. `Inside` says which nodes
may be entered, and these make the requests. -/
structure Lockstep (machine : Machine ρ) (other : Machine ρ') (Inside : Expr → Prop)
    (Match : ρ → ρ' → Prop) : Prop where
  enters : ∀ node, Inside node → ∀ state state', Match state state' →
    Alike Match (machine.enter node state) (other.enter node state')
  leaves : ∀ state state', Match state state' → Match (machine.leave state) (other.leave state')
  reads : ∀ node key, Inside node → node.readKey? = some key → ∀ state state', Match state state' →
    Alike Match (machine.read key node.type state) (other.read key node.type state')
  writes : ∀ node key, Inside node → node.writtenKey? = some key → ∀ value state state',
    Match state state' → Alike Match (machine.write key value state) (other.write key value state')

namespace Alike

variable {Match : ρ → ρ' → Prop} {state : ρ} {state' : ρ'}

/-- What comes out alike with something known has its result, and a state that matches
its state. -/
theorem exists_eq {result : Except ε α} {after : ρ} {outcome : Except ε α × ρ'}
    (alike : Alike Match (result, after) outcome) :
    ∃ after', outcome = (result, after') ∧ Match after after' :=
  ⟨outcome.2, Prod.ext alike.1.symm rfl, alike.2⟩

/-- Sequences of which the first parts come out alike are related if they are where both
fail and where both go on. -/
theorem andThen {Related : Except EvalError β × ρ → Except EvalError β × ρ' → Prop}
    {first : Action ρ α} {first' : Action ρ' α} {next : α → Action ρ β}
    {next' : α → Action ρ' β} (before : Alike Match (first state) (first' state'))
    (failed : ∀ error after after', Match after after' →
      Related (.error error, after) (.error error, after'))
    (later : ∀ result after after', Match after after' →
      Related (next result after) (next' result after')) :
    Related ((first >>= next) state) ((first' >>= next') state') := by
  rcases ran : first state with ⟨outcome, after⟩
  rcases ran' : first' state' with ⟨outcome', after'⟩
  rw [ran, ran'] at before
  obtain ⟨same, reached⟩ := before
  dsimp only at same reached
  subst same
  cases outcome with
  | error error =>
    rw [Action.run_bind_error ran, Action.run_bind_error ran']
    exact failed error after after' reached
  | ok result =>
    rw [Action.run_bind_ok ran, Action.run_bind_ok ran']
    exact later result after after' reached

/-- Requests that are answered alike. -/
theorem ofRequest {position : Position} {request : ρ → Except ContextError α × ρ}
    {request' : ρ' → Except ContextError α × ρ'}
    (answered : Alike Match (request state) (request' state')) :
    Alike Match (Action.ofRequest position request state)
      (Action.ofRequest position request' state') := by
  rcases answer : request state with ⟨outcome, after⟩
  rcases answer' : request' state' with ⟨outcome', after'⟩
  rw [answer, answer'] at answered
  obtain ⟨same, reached⟩ := answered
  dsimp only at same reached
  subst same
  unfold Action.ofRequest
  rw [answer, answer']
  cases outcome with
  | error error => exact ⟨rfl, reached⟩
  | ok result => exact ⟨rfl, reached⟩

/-- Nodes at one position that are entered alike are related if they are where both are
refused, and where both are left after their bodies. -/
theorem enclose {machine : Machine ρ} {other : Machine ρ'} {expr expr' : Expr}
    {body : Action ρ Value} {body' : Action ρ' Value}
    {Related : Except EvalError Value × ρ → Except EvalError Value × ρ' → Prop}
    (entering : Alike Match (machine.enter expr state) (other.enter expr' state'))
    (placed : expr'.position = expr.position)
    (refused : ∀ failure after after', Match after after' →
      Related (.error ⟨failure, some expr.position⟩, after)
        (.error ⟨failure, some expr.position⟩, after'))
    (bodies : ∀ entered entered', Match entered entered' →
      Related ((body entered).1, machine.leave (body entered).2)
        ((body' entered').1, other.leave (body' entered').2)) :
    Related (machine.node expr body state) (other.node expr' body' state') := by
  rcases attempt : machine.enter expr state with ⟨outcome, entered⟩
  rcases attempt' : other.enter expr' state' with ⟨outcome', entered'⟩
  rw [attempt, attempt'] at entering
  obtain ⟨same, reached⟩ := entering
  dsimp only at same reached
  subst same
  cases outcome with
  | error failure =>
    rw [Machine.node_refused attempt, Machine.node_refused attempt', placed]
    exact refused failure entered entered' reached
  | ok done =>
    rw [Machine.node_entered attempt, Machine.node_entered attempt']
    exact bodies entered entered' reached

end Alike

namespace Lockstep

variable {machine : Machine ρ} {other : Machine ρ'} {Inside : Expr → Prop}
  {Match : ρ → ρ' → Prop}

/-- What an evaluation is made of comes out alike on machines in lockstep. -/
theorem correspondence (lockstep : Lockstep machine other Inside Match) :
    Correspondence machine other Inside fun _ action action' =>
      ∀ state state', Match state state' → Alike Match (action state) (action' state') where
  result _ _ _ matched := ⟨rfl, matched⟩
  refusal _ _ _ _ matched := ⟨rfl, matched⟩
  sequence before later state state' matched :=
    (before state state' matched).andThen (fun _ _ _ reached => ⟨rfl, reached⟩) later
  slot _ _ _ inside state state' matched :=
    .ofRequest (lockstep.reads _ _ inside rfl state state' matched)
  setSlot _ _ _ _ inside value state state' matched :=
    .ofRequest (lockstep.writes _ _ inside rfl value state state' matched)
  loop _ _ _ _ _ inside item state state' matched :=
    .ofRequest (lockstep.writes _ _ inside rfl item state state' matched)
  node _ _ _ inside _ _ bodies state state' matched := by
    refine (lockstep.enters _ inside state state' matched).enclose rfl
      (fun _ _ _ reached => ⟨rfl, reached⟩) fun entered entered' reached => ?_
    obtain ⟨same, ended⟩ := bodies entered entered' reached
    exact ⟨same, lockstep.leaves _ _ ended⟩

/-- An evaluation comes out alike on machines in lockstep. -/
theorem eval (lockstep : Lockstep machine other Inside Match) (expr : Expr)
    (inside : ∀ node ∈ expr.nodes, Inside node) {state : ρ} {state' : ρ'}
    (matched : Match state state') :
    Alike Match (machine.eval expr state) (other.eval expr state') :=
  lockstep.correspondence.eval expr inside state state' matched

end Lockstep

/-! ## Invariants -/

/-- A property of the states of a machine that nothing it is asked by the nodes
inside destroys, whatever it answers. -/
structure Machine.Preserves (machine : Machine ρ) (Inside : Expr → Prop) (Holds : ρ → Prop) :
    Prop where
  enters : ∀ node, Inside node → ∀ state, Holds state → Holds (machine.enter node state).2
  leaves : ∀ state, Holds state → Holds (machine.leave state)
  reads : ∀ node key, Inside node → node.readKey? = some key → ∀ state, Holds state →
    Holds (machine.read key node.type state).2
  writes : ∀ node key, Inside node → node.writtenKey? = some key → ∀ value state, Holds state →
    Holds (machine.write key value state).2

/-- A machine is in lockstep with itself as long as an invariant holds. -/
theorem Machine.Preserves.lockstep {machine : Machine ρ} {Inside : Expr → Prop} {Holds : ρ → Prop}
    (preserves : machine.Preserves Inside Holds) :
    Lockstep machine machine Inside fun state state' => state = state' ∧ Holds state := by
  refine ⟨?_, ?_, ?_, ?_⟩
  · rintro node here state _ ⟨rfl, holds⟩
    exact ⟨rfl, rfl, preserves.enters node here state holds⟩
  · rintro state _ ⟨rfl, holds⟩
    exact ⟨rfl, preserves.leaves state holds⟩
  · rintro node key here reads state _ ⟨rfl, holds⟩
    exact ⟨rfl, rfl, preserves.reads node key here reads state holds⟩
  · rintro node key here writes value state _ ⟨rfl, holds⟩
    exact ⟨rfl, rfl, preserves.writes node key here writes value state holds⟩

/-- What nothing destroys that a machine is asked holds when the evaluation has come
to its end, be it a result or a failure. -/
theorem Machine.Preserves.eval {machine : Machine ρ} {Inside : Expr → Prop} {Holds : ρ → Prop}
    (preserves : machine.Preserves Inside Holds) (expr : Expr)
    (inside : ∀ node ∈ expr.nodes, Inside node) {state : ρ} (held : Holds state) :
    Holds (machine.eval expr state).2 :=
  (preserves.lockstep.eval expr inside ⟨rfl, held⟩).2.2

end RuleTree
