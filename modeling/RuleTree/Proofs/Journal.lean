import RuleTree.Proofs.Lockstep
import RuleTree.Proofs.Recording

/-!
# Journals of requests

A record counts the requests to a context; a journal says more of each: which node
made it and, if it was refused, why. The node that makes a request is the innermost
of those that have been entered and not left again, so a journal keeps the nodes it
is inside of. It also keeps the states in which nodes were left, because leaving is
the one thing a machine is told without being asked.

Like a record, a journal does not bear on the evaluation it is kept of.
-/

namespace RuleTree

/-- A request to a context: the innermost node that had been entered, what was asked,
and why it was refused, if it was. -/
structure Request where
  caller : Option Expr
  call : Call
  refusal : Option ContextError

/-- Which requests a node makes itself: it reads at its type, and it writes. -/
def Expr.Makes (node : Expr) : Call → Prop
  | .read key type => node.readKey? = some key ∧ type = node.type
  | .write key _ => node.writtenKey? = some key

/-- The state of a machine, the nodes it is inside of from the innermost outwards, the
requests it has had, and the states in which nodes were left. -/
structure Journal (ρ : Type) where
  state : ρ
  inside : List Expr
  requests : List Request
  exits : List ρ

namespace Journal

variable {ρ : Type}

/-- A journal with nothing in it. -/
def start (state : ρ) : Journal ρ := ⟨state, [], [], []⟩

/-- The journal after a node was entered. -/
def entered (journal : Journal ρ) (node : Expr) (state : ρ) : Journal ρ :=
  { journal with state, inside := node :: journal.inside }

/-- The journal after a request. -/
def asked (journal : Journal ρ) (call : Call) (refusal : Option ContextError) (state : ρ) :
    Journal ρ :=
  { journal with
    state, requests := journal.requests ++ [⟨journal.inside.head?, call, refusal⟩] }

/-- The journal after the innermost node was left. -/
def left (journal : Journal ρ) (state : ρ) : Journal ρ :=
  { journal with
    state, inside := journal.inside.tail, exits := journal.exits ++ [journal.state] }

end Journal

namespace Machine

variable {ρ : Type}

/-- The machine that does what a machine does and keeps a journal of it. -/
def journaling (machine : Machine ρ) : Machine (Journal ρ) where
  enter node journal :=
    match machine.enter node journal.state with
    | (.ok (), state) => (.ok (), journal.entered node state)
    | (.error failure, state) => (.error failure, { journal with state })
  leave journal := journal.left (machine.leave journal.state)
  read key type journal :=
    match machine.read key type journal.state with
    | (answer, state) => (answer, journal.asked (.read key type) (refusal? answer) state)
  write key value journal :=
    match machine.write key value journal.state with
    | (answer, state) => (answer, journal.asked (.write key value) (refusal? answer) state)

/-- The journal of the evaluation of a tree from a state. -/
def journal (machine : Machine ρ) (expr : Expr) (state : ρ) : Journal ρ :=
  (machine.journaling.eval expr (.start state)).2

/-- The requests to the context, in order. -/
def requests (machine : Machine ρ) (expr : Expr) (state : ρ) : List Request :=
  (machine.journal expr state).requests

/-- The states in which nodes were left, in order. -/
def exits (machine : Machine ρ) (expr : Expr) (state : ρ) : List ρ :=
  (machine.journal expr state).exits

variable {machine : Machine ρ}

/-- Who may enter is inside. -/
theorem journaling_enter_ok {node : Expr} {journal : Journal ρ} {entered : ρ}
    (entering : machine.enter node journal.state = (.ok (), entered)) :
    machine.journaling.enter node journal = (.ok (), journal.entered node entered) := by
  simp only [journaling, entering]

/-- Who may not enter leaves the journal as it was. -/
theorem journaling_enter_error {node : Expr} {journal : Journal ρ} {refused : ρ}
    {failure : Failure} (entering : machine.enter node journal.state = (.error failure, refused)) :
    machine.journaling.enter node journal =
      (.error failure, { journal with state := refused }) := by
  simp only [journaling, entering]

/-- A machine and the machine that keeps a journal of it run in lockstep. -/
theorem journaling_lockstep (machine : Machine ρ) :
    Lockstep machine.journaling machine (fun _ => True) fun journal state =>
      journal.state = state where
  enters node _ journal state same := by
    subst same
    rcases entering : machine.enter node journal.state with ⟨failure | _, after⟩
    · rw [journaling_enter_error entering]
      exact ⟨rfl, rfl⟩
    · rw [journaling_enter_ok entering]
      exact ⟨rfl, rfl⟩
  leaves _ _ same := congrArg machine.leave same
  reads _ _ _ _ _ _ same := by
    subst same
    exact ⟨rfl, rfl⟩
  writes _ _ _ _ _ _ _ same := by
    subst same
    exact ⟨rfl, rfl⟩

/-- An evaluation of which a journal is kept gives the result of the evaluation, and
ends in its state. -/
theorem journaling_eval (machine : Machine ρ) (expr : Expr) (journal : Journal ρ) :
    (machine.journaling.eval expr journal).1 = (machine.eval expr journal.state).1 ∧
      (machine.journaling.eval expr journal).2.state = (machine.eval expr journal.state).2 :=
  machine.journaling_lockstep.eval expr (fun _ _ => trivial) rfl

end Machine

end RuleTree
