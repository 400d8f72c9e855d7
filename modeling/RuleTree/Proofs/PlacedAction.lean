import RuleTree.Eval.Evaluation

/-!
# Failures that have their positions from the beginning

The nodes that a failure passes on its way out all offer their positions, but only the
first offer counts, and it comes from the node in whose body the failure has arisen. So a
failure might as well have the position of that node from the beginning. The parts of a body
are given here with the position at which they fail, and `Places` says that this comes to
the same: whoever attaches the position to what an action fails with has the placed action.

What comes out of a node has a position, and stays as it is under every further offer.
-/

namespace RuleTree

variable {ρ α β : Type}

namespace Action

/-- A result that may be the failure of an operation on values, at a position. -/
def ofValue (position : Position) : Except ValueError α → Action ρ α
  | .ok result => fun state => (.ok result, state)
  | .error error => fun state => (.error ⟨.invariant error, some position⟩, state)

/-- A request to the context, made at a position. -/
def ofRequest (position : Position) (request : ρ → Except ContextError α × ρ) : Action ρ α :=
  fun state =>
    match request state with
    | (.ok result, state) => (.ok result, state)
    | (.error error, state) => (.error ⟨.context error, some position⟩, state)

/-- The truth value of what an operand yields, asked for at a position. -/
def truth (position : Position) (operand : Action ρ Value) : Action ρ (Option Bool) := do
  let value ← operand
  ofValue position value.asBoolean

/-- An action becomes another when the position is attached to what it fails with. -/
def Places (position : Position) (action placed : Action ρ α) : Prop :=
  action.attach position = placed

namespace Places

variable {position : Position}

/-- A result needs no position. -/
theorem pure (result : α) :
    Places position (Pure.pure result : Action ρ α) (Pure.pure result) := rfl

/-- An operation on values fails at the position. -/
theorem attempt (outcome : Except ValueError α) :
    Places position (Action.attempt outcome : Action ρ α) (.ofValue position outcome) := by
  cases outcome <;> rfl

/-- A request fails at the position. -/
theorem request (made : ρ → Except ContextError α × ρ) :
    Places position (.request made) (.ofRequest position made) := by
  funext state
  simp only [attach, Action.request, ofRequest]
  rcases made state with ⟨_ | _, _⟩ <;> rfl

/-- A sequence fails at the position if both of its parts do. -/
theorem bind {first first' : Action ρ α} {next next' : α → Action ρ β}
    (before : Places position first first')
    (later : ∀ result, Places position (next result) (next' result)) :
    Places position (first >>= next) (first' >>= next') := by
  subst before
  obtain rfl : (fun result => (next result).attach position) = next' := funext later
  funext state
  simp only [attach, Bind.bind, andThen]
  rcases first state with ⟨_ | _, _⟩ <;> rfl

/-- The truth value of an operand is asked for at the position. -/
theorem truthOf {operand operand' : Action ρ Value} (places : Places position operand operand') :
    Places position operand.truthOf (operand'.truth position) :=
  places.bind fun value => attempt value.asBoolean

end Places

end Action

namespace Machine

/-- Enter a node, go through its body and leave it. A node that may not be entered fails
itself; a failure of the body has its position already. -/
def node (machine : Machine ρ) (expr : Expr) (body : Action ρ Value) : Action ρ Value :=
  fun state =>
    match machine.enter expr state with
    | (.error failure, state) => (.error ⟨failure, some expr.position⟩, state)
    | (.ok (), state) =>
      match body state with
      | (result, state) => (result, machine.leave state)

/-- Read a slot on behalf of a node. -/
def readAt (machine : Machine ρ) (tag : Tag) (key : Key) : Action ρ Value :=
  .ofRequest tag.position (machine.read key tag.type)

/-- Write a slot on behalf of a node. -/
def writeAt (machine : Machine ρ) (tag : Tag) (key : Key) (value : Value) : Action ρ Unit :=
  .ofRequest tag.position (machine.write key value)

variable {machine : Machine ρ} {expr : Expr} {body placed : Action ρ Value}

/-- A node is evaluated by going through its body with the failures placed at the node. -/
theorem evalNode_eq (places : body.Places expr.position placed) :
    machine.evalNode expr body = machine.node expr placed := by
  subst places
  rfl

/-- What fails in a node has a position, to which another makes no difference. -/
theorem evalNode_places (position : Position) :
    (machine.evalNode expr body).Places position (machine.evalNode expr body) := by
  funext state
  simp only [Action.attach, evalNode]
  rcases machine.enter expr state with ⟨_ | ⟨⟩, entered⟩
  · rfl
  · dsimp only
    rcases body entered with ⟨_ | _, after⟩ <;> rfl

/-- What fails in a tree has a position, to which another makes no difference. -/
theorem eval_places (machine : Machine ρ) (expr : Expr) (position : Position) :
    (machine.eval expr).Places position (machine.eval expr) := by
  cases expr <;> exact evalNode_places position

end Machine

end RuleTree
