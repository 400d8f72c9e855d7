import RuleTree.Proofs.Outcome
import RuleTree.Proofs.PlacedAction

/-!
# Reasoning about actions

What an action does from a state is read off its parts: a sequence does what its
first part does and, unless that failed, goes on with the rest. `Keeps` is the
law that most properties of evaluations are cases of. It speaks of one invariant
of the states, of the results that may be given and of the failures that may
occur, and it is proved part by part.

The failures of `Keeps` are stated about the state in which an evaluation has
stopped, so that a failure may be explained by what the state has recorded.
-/

namespace RuleTree

variable {ρ α β : Type}

namespace Action

/-- A sequence goes on from where its first part succeeded. -/
theorem run_bind_ok {first : Action ρ α} {next : α → Action ρ β} {state after : ρ} {result : α}
    (succeeded : first state = (.ok result, after)) :
    (first >>= next) state = next result after := by
  simp only [bind, andThen, succeeded]

/-- A sequence fails as its first part fails. -/
theorem run_bind_error {first : Action ρ α} {next : α → Action ρ β} {state after : ρ}
    {error : EvalError} (failed : first state = (.error error, after)) :
    (first >>= next) state = (.error error, after) := by
  simp only [bind, andThen, failed]

/-- Actions may be regrouped, and results that are only passed on may be left out. -/
instance : LawfulMonad (Action ρ) := by
  refine LawfulMonad.mk' (Action ρ) ?unit ?result ?regroup
  case unit =>
    intro α action
    funext state
    rcases ran : action state with ⟨error | result, after⟩
    · exact run_bind_error ran
    · exact run_bind_ok ran
  case result =>
    intro α β result next
    rfl
  case regroup =>
    intro α β γ first next last
    funext state
    rcases ran : first state with ⟨error | result, after⟩
    · rw [run_bind_error ran, run_bind_error (run_bind_error ran)]
    · rw [run_bind_ok ran]
      simp only [bind, andThen, ran]

/-- A result of an operation on values leaves the state alone. -/
theorem run_ofValue_ok {position : Position} {outcome : Except ValueError α} {result : α}
    (computed : outcome = .ok result) (state : ρ) :
    Action.ofValue position outcome state = (.ok result, state) := by
  subst computed
  rfl

/-- A failure of an operation on values is a violated invariant at its position. -/
theorem run_ofValue_error {position : Position} {outcome : Except ValueError α}
    {error : ValueError} (refused : outcome = .error error) (state : ρ) :
    Action.ofValue position outcome state = (.error ⟨.invariant error, some position⟩, state) := by
  subst refused
  rfl

/-- A request comes to the state to which it comes, whether it is refused or not. -/
theorem run_ofRequest_state (position : Position) (request : ρ → Except ContextError α × ρ)
    (state : ρ) : (Action.ofRequest position request state).2 = (request state).2 := by
  unfold ofRequest
  rcases request state with ⟨_ | _, _⟩ <;> rfl

/-- How an action has come out: with a result that is meant in a state that holds,
or with a failure that is admitted where it stopped. -/
def Kept (Holds : ρ → Prop) (Fails : EvalError → ρ → Prop) (Gives : α → Prop) :
    Except EvalError α × ρ → Prop
  | (.ok result, after) => Gives result ∧ Holds after
  | (.error error, after) => Fails error after

/-- From every state that holds, an action comes out as it should. -/
def Keeps (action : Action ρ α) (Holds : ρ → Prop) (Fails : EvalError → ρ → Prop)
    (Gives : α → Prop) : Prop :=
  ∀ state, Holds state → Kept Holds Fails Gives (action state)

variable {Holds : ρ → Prop} {Fails : EvalError → ρ → Prop}

/-- From one state, a sequence comes out as it should if its first part does and
the second does from where the first has come. -/
theorem Kept.bind {Middle : α → Prop} {Gives : β → Prop} {first : Action ρ α}
    {next : α → Action ρ β} {state : ρ} (before : Kept Holds Fails Middle (first state))
    (later : ∀ result after, first state = (.ok result, after) → Middle result → Holds after →
      Kept Holds Fails Gives (next result after)) :
    Kept Holds Fails Gives ((first >>= next) state) := by
  rcases ran : first state with ⟨error | result, after⟩
  · rw [run_bind_error ran]
    rw [ran] at before
    exact before
  · rw [run_bind_ok ran]
    rw [ran] at before
    exact later result after ran before.1 before.2

/-- A node is left with what was kept in it, if leaving does not undo it. -/
theorem Kept.leave {Gives : α → Prop} {machine : Machine ρ} {outcome : Except EvalError α × ρ}
    (kept : Kept Holds Fails Gives outcome)
    (held : ∀ state, Holds state → Holds (machine.leave state))
    (failed : ∀ error state, Fails error state → Fails error (machine.leave state)) :
    Kept Holds Fails Gives (outcome.1, machine.leave outcome.2) := by
  obtain ⟨error | result, after⟩ := outcome
  · exact failed error after kept
  · exact ⟨kept.1, held after kept.2⟩

/-- A result that is meant. -/
theorem Keeps.pure {Gives : α → Prop} {result : α} (given : Gives result) :
    (Pure.pure result : Action ρ α).Keeps Holds Fails Gives :=
  fun _ held => ⟨given, held⟩

/-- An operation on values with a result that is meant. -/
theorem Keeps.ofValue {Gives : α → Prop} {position : Position} {outcome : Except ValueError α}
    {result : α} (computed : outcome = .ok result) (given : Gives result) :
    (Action.ofValue position outcome : Action ρ α).Keeps Holds Fails Gives := by
  intro state held
  rw [run_ofValue_ok computed]
  exact ⟨given, held⟩

/-- A request whose answers are meant, and whose failures are admitted. -/
theorem Keeps.ofRequest {Gives : α → Prop} {position : Position}
    {request : ρ → Except ContextError α × ρ}
    (answered : ∀ state result after, Holds state → request state = (.ok result, after) →
      Gives result ∧ Holds after)
    (failed : ∀ state error after, Holds state → request state = (.error error, after) →
      Fails ⟨.context error, some position⟩ after) :
    (Action.ofRequest position request).Keeps Holds Fails Gives := by
  intro state held
  rcases answer : request state with ⟨error | result, after⟩
  · simp only [Action.ofRequest, answer]
    exact failed state error after held answer
  · simp only [Action.ofRequest, answer]
    exact answered state result after held answer

/-- A sequence that goes on with the result of an operation on values. -/
theorem Keeps.afterValue {Gives : β → Prop} {position : Position} {outcome : Except ValueError α}
    {result : α} {next : α → Action ρ β} (computed : outcome = .ok result)
    (later : (next result).Keeps Holds Fails Gives) :
    (Action.ofValue position outcome >>= next).Keeps Holds Fails Gives := by
  intro state held
  rw [run_bind_ok (run_ofValue_ok computed state)]
  exact later state held

/-- A sequence keeps what its parts keep, where the second may rely on what the
first gives. -/
theorem Keeps.bind {Middle : α → Prop} {Gives : β → Prop} {first : Action ρ α}
    {next : α → Action ρ β} (before : first.Keeps Holds Fails Middle)
    (later : ∀ result, Middle result → (next result).Keeps Holds Fails Gives) :
    (first >>= next).Keeps Holds Fails Gives :=
  fun state held => (before state held).bind fun result after _ given holds =>
    later result given after holds

/-- What an action has added to a list that the state keeps, and what the addition says
of its failure, if it has failed. A measure of the state is what it was. -/
structure Adds {ι κ : Type} (log : ρ → List ι) (measure : ρ → κ)
    (Says : List ι → Option EvalError → Prop) (state : ρ) (outcome : Except EvalError α × ρ) :
    Prop where
  restored : measure outcome.2 = measure state
  added : ∃ added, log outcome.2 = log state ++ added ∧ Says added (refusal? outcome.1)

section Additions

variable {ι κ : Type} {log : ρ → List ι} {measure : ρ → κ}
  {Says Says' : List ι → Option EvalError → Prop} {state : ρ}

/-- An action that adds nothing. -/
theorem Adds.nothing {outcome : Except EvalError α × ρ} (told : Says [] (refusal? outcome.1))
    (restored : measure outcome.2 = measure state) (same : log outcome.2 = log state) :
    Adds log measure Says state outcome :=
  ⟨restored, [], same.trans (List.append_nil _).symm, told⟩

/-- A sequence adds what its first part adds and then, unless that has failed, what its
second part adds. -/
theorem Adds.sequence {first : Action ρ α} {next : α → Action ρ β}
    (joins : ∀ earlier later failed, Says earlier none → Says later failed →
      Says (earlier ++ later) failed)
    (before : Adds log measure Says state (first state))
    (after : ∀ result middle, measure middle = measure state →
      Adds log measure Says middle (next result middle)) :
    Adds log measure Says state ((first >>= next) state) := by
  obtain ⟨restored, added, logged, told⟩ := before
  rcases ran : first state with ⟨error | result, middle⟩
  · rw [ran] at restored logged told
    rw [run_bind_error ran]
    exact ⟨restored, added, logged, told⟩
  · rw [ran] at restored logged told
    rw [run_bind_ok ran]
    obtain ⟨restoredLater, more, loggedLater, toldLater⟩ := after result middle restored
    refine ⟨restoredLater.trans restored, added ++ more, ?_, joins added more _ told toldLater⟩
    rw [loggedLater, logged, List.append_assoc]

/-- What an addition says may be put more weakly. -/
theorem Adds.mono {outcome : Except EvalError α × ρ} (adds : Adds log measure Says state outcome)
    (weaker : ∀ added, Says added (refusal? outcome.1) → Says' added (refusal? outcome.1)) :
    Adds log measure Says' state outcome := by
  obtain ⟨restored, added, logged, told⟩ := adds
  exact ⟨restored, added, logged, weaker added told⟩

end Additions

end Action

namespace Machine

/-- Who is refused at a node fails there with the reason of the refusal. -/
theorem node_refused {machine : Machine ρ} {expr : Expr} {body : Action ρ Value} {state refused : ρ}
    {failure : Failure} (entering : machine.enter expr state = (.error failure, refused)) :
    machine.node expr body state = (.error ⟨failure, some expr.position⟩, refused) := by
  simp only [node, entering]

/-- A tree that is refused at its root fails there. -/
theorem eval_refused {machine : Machine ρ} {expr : Expr} {state refused : ρ} {failure : Failure}
    (entering : machine.enter expr state = (.error failure, refused)) :
    machine.eval expr state = (.error ⟨failure, some expr.position⟩, refused) := by
  have nodewise {body : Action ρ Value} :
      machine.evalNode expr body state = (.error ⟨failure, some expr.position⟩, refused) := by
    rw [evalNode_eq rfl, node_refused entering]
  cases expr <;> exact nodewise

/-- Who has entered a node goes through its body and leaves it, also after a
failure. -/
theorem node_entered {machine : Machine ρ} {expr : Expr} {body : Action ρ Value}
    {state entered : ρ} (entering : machine.enter expr state = (.ok (), entered)) :
    machine.node expr body state = ((body entered).1, machine.leave (body entered).2) := by
  simp only [node, entering]

/-- A loop binds its first item, evaluates its body, and unless it is stopped by
what the body yields goes on with the other items. -/
theorem repeatBody_cons (bind : Value → Action ρ Unit) (body : Action ρ Value)
    (stop result item : Value) (rest : List Value) :
    repeatBody bind body stop result (item :: rest) = (do
      bind item
      let result ← body
      if !stop.isNil && result.equal stop then pure result
      else repeatBody bind body stop result rest) := by
  funext state
  simp only [repeatBody, Bind.bind, Action.andThen]
  rcases bind item state with ⟨_ | _, bound⟩
  · rfl
  · dsimp only
    rcases body bound with ⟨_ | result, after⟩
    · rfl
    · dsimp only
      split <;> rfl

/-- Several trees are evaluated one after another. -/
theorem evalAll_cons (machine : Machine ρ) (result : Value) (part : Expr) (rest : List Expr) :
    machine.evalAll result (part :: rest) = (do
      let result ← machine.eval part
      machine.evalAll result rest) := by
  funext state
  simp only [evalAll, Bind.bind, Action.andThen]
  rcases machine.eval part state with ⟨_ | result, after⟩ <;> rfl

variable {Holds : ρ → Prop} {Fails : EvalError → ρ → Prop}

/-- A loop keeps what binding and its body keep, and gives what the body gives or
what it was given to begin with. -/
theorem repeatBody_keeps {Gives : Value → Prop} {bind : Value → Action ρ Unit}
    {body : Action ρ Value} {stop result : Value} {items : List Value}
    (binding : ∀ item ∈ items, (bind item).Keeps Holds Fails fun _ => True)
    (running : body.Keeps Holds Fails Gives) (given : Gives result) :
    (repeatBody bind body stop result items).Keeps Holds Fails Gives := by
  induction items generalizing result with
  | nil => exact .pure given
  | cons item rest inductionHypothesis =>
    rw [repeatBody_cons]
    refine (binding item List.mem_cons_self).bind fun _ _ => running.bind fun later yielded => ?_
    split
    · exact .pure yielded
    · exact inductionHypothesis (fun other member => binding other (List.mem_cons_of_mem _ member))
        yielded

end Machine

end RuleTree
