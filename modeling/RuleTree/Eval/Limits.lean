import RuleTree.Eval.Evaluation

/-!
# Limits

An evaluation may be limited in how deep it nests and in how many nodes it enters
altogether. Both counters are words of 64 bits and stay at their greatest value
once they have reached it. Entering counts the node before the limits are
consulted, so a refused node has been counted; it does not nest.

The counters belong to a run. A run may evaluate several trees: the depth begins
anew with each, the count of nodes goes on.
-/

namespace RuleTree

/-- The limits of a run, where there are any. -/
structure Limits where
  maxDepth : Option Nat := none
  nodeBudget : Option Nat := none
  deriving DecidableEq, Repr

/-- No limits. -/
def Limits.none : Limits := {}

/-- What a run has counted: how many nodes it is inside of, and how many it has
entered. -/
structure Counters where
  depth : Nat := 0
  nodes : Nat := 0
  deriving DecidableEq, Repr

namespace Counters

/-- The greatest value of a counter. -/
def greatest : Nat := Nat.pow 2 64 - 1

/-- A counter one higher, if it can be. -/
def next (counter : Nat) : Nat := min (counter + 1) greatest

/-- Enter a node. The budget is consulted before the depth. -/
def enter (limits : Limits) (counters : Counters) : Except Failure Unit × Counters :=
  let counted := { counters with nodes := next counters.nodes }
  let entered := { counted with depth := next counters.depth }
  match limits.nodeBudget.filter (· < entered.nodes) with
  | some budget => (.error (.budgetExceeded budget), counted)
  | none =>
    match limits.maxDepth.filter (· < entered.depth) with
    | some limit => (.error (.depthExceeded limit), counted)
    | none => (.ok (), entered)

/-- Leave a node that has been entered. -/
def leave (counters : Counters) : Counters := { counters with depth := counters.depth - 1 }

end Counters

/-- The state of a run: its counters and the state of its context. -/
structure RunState (σ : Type) where
  counters : Counters
  context : σ

/-- A run that has entered no node. -/
def RunState.start {σ : Type} (context : σ) : RunState σ := ⟨{}, context⟩

/-- The machine of a context under limits. -/
def Context.machine {σ : Type} (context : Context σ) (limits : Limits) :
    Machine (RunState σ) where
  enter _ run :=
    match run.counters.enter limits with
    | (result, counters) => (result, { run with counters })
  leave run := { run with counters := run.counters.leave }
  read key type run :=
    match context.read key type run.context with
    | (result, state) => (result, { run with context := state })
  write key value run :=
    match context.write key value run.context with
    | (result, state) => (result, { run with context := state })

namespace Expr

/-- Evaluate a tree as part of a run. -/
def evaluateIn {σ : Type} (expr : Expr) (context : Context σ) (limits : Limits)
    (run : RunState σ) : Except EvalError Value × RunState σ :=
  (context.machine limits).eval expr run

/-- Evaluate a tree as a run of its own. -/
def evaluate {σ : Type} (expr : Expr) (context : Context σ) (limits : Limits) (state : σ) :
    Except EvalError Value × σ :=
  match expr.evaluateIn context limits (.start state) with
  | (result, run) => (result, run.context)

/-- The result where there is no context: a failure before any node is entered. -/
def evaluateWithout : Except EvalError Value := .error (.ofFailure .missingContext)

end Expr

end RuleTree
