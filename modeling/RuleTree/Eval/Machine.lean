import RuleTree.Eval.Failure

/-!
# Machines

What evaluation needs from outside is small: to be allowed into each node, to
leave it again, and to have slots read and written. A machine gives these four.
The evaluator is written against machines alone, so counting, limiting and
recording are matters of the machine, and no evaluation can tell them apart.

An action runs on the state of a machine. The state survives a failure: what has
been written stays written.
-/

namespace RuleTree

/-- The surroundings of an evaluation, with states of a type. Whoever is let into a
node leaves it again; whoever is refused does not. -/
structure Machine (ρ : Type) where
  enter : Expr → ρ → Except Failure Unit × ρ
  leave : ρ → ρ
  read : Key → Signature → ρ → Except ContextError Value × ρ
  write : Key → Value → ρ → Except ContextError Unit × ρ

/-- A step on the state of a machine, which gives a result or fails. -/
def Action (ρ α : Type) : Type := ρ → Except EvalError α × ρ

namespace Action

/-- Go on with the result of an action, unless it failed. -/
def andThen {ρ α β : Type} (first : Action ρ α) (next : α → Action ρ β) : Action ρ β :=
  fun state =>
    match first state with
    | (.ok result, state) => next result state
    | (.error error, state) => (.error error, state)

instance {ρ : Type} : Monad (Action ρ) where
  pure result := fun state => (.ok result, state)
  bind := andThen

/-- A result that may be the failure of an operation on values. -/
def attempt {ρ α : Type} : Except ValueError α → Action ρ α
  | .ok result => fun state => (.ok result, state)
  | .error error => fun state => (.error (.ofFailure (.invariant error)), state)

/-- A request to the context. -/
def request {ρ α : Type} (made : ρ → Except ContextError α × ρ) : Action ρ α :=
  fun state =>
    match made state with
    | (.ok result, state) => (.ok result, state)
    | (.error error, state) => (.error (.ofFailure (.context error)), state)

/-- Attach a position to what an action fails with. -/
def attach {ρ α : Type} (position : Position) (action : Action ρ α) : Action ρ α :=
  fun state =>
    match action state with
    | (result, state) => (result.mapError (·.attach position), state)

end Action

namespace Machine

/-- Evaluate a node: enter it, go through its body and leave it, also where the
body fails. A node that may not be entered fails itself. Its position is attached to
either failure. -/
def evalNode {ρ : Type} (machine : Machine ρ) (expr : Expr) (body : Action ρ Value) :
    Action ρ Value :=
  fun state =>
    match machine.enter expr state with
    | (.error failure, state) =>
      (.error ((EvalError.ofFailure failure).attach expr.position), state)
    | (.ok (), state) =>
      match body.attach expr.position state with
      | (result, state) => (result, machine.leave state)

end Machine

end RuleTree
