import RuleTree.Eval.Context
import RuleTree.Expr.Basic

/-!
# Why an evaluation fails

An evaluation stops at the first failure. A failure arises without a position, and
every node that it passes on its way out offers its own; the first offer stands, so
that an error carries the position of the node whose own step failed. A failure of
the context and a limit that is reached are part of ordinary life; a violated
invariant means that the tree should not have been built.
-/

namespace RuleTree

/-- What went wrong. -/
inductive Failure
  | missingContext
  | context (error : ContextError)
  | invariant (error : ValueError)
  | depthExceeded (limit : Nat)
  | budgetExceeded (budget : Nat)
  deriving DecidableEq

/-- The text of a failure without its position. -/
def Failure.message : Failure → String
  | .missingContext => "invalid null request context"
  | .context error => "request context: " ++ error.message
  | .invariant error => "invariant violation: " ++ error.message
  | .depthExceeded limit => s!"maximum nesting depth of {Numeral.natural limit} exceeded"
  | .budgetExceeded budget => s!"evaluation budget of {Numeral.natural budget} nodes exceeded"

/-- A failure and the node that failed, if there was one. -/
structure EvalError where
  failure : Failure
  position : Option Position
  deriving DecidableEq

namespace EvalError

/-- An error that has just arisen. -/
def ofFailure (failure : Failure) : EvalError := ⟨failure, none⟩

/-- Attach the position of a node that has failed. A position from further inside is
kept. -/
def attach (position : Position) (error : EvalError) : EvalError :=
  { error with position := some (error.position.getD position) }

/-- The text of an error. -/
def message (error : EvalError) : String :=
  match error.position with
  | some position => error.failure.message ++ " at " ++ position.toText
  | none => error.failure.message

/-- Whether an operation reached a value that does not have it. -/
def isInvariantViolation (error : EvalError) : Bool :=
  match error.failure with
  | .invariant _ => true
  | _ => false

end EvalError

end RuleTree
