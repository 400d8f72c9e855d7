import RuleTree.Proofs.EquivalentTrees
import RuleTree.Proofs.Recording

/-!
# Evaluation without limits

Without limits nothing depends on the counters of a run, so they can be left out. What is
left is a machine on the states of the context alone: it lets everyone in, leaving does
nothing, and a node is no more than its body. Statements about evaluations without limits
are proved on this machine.

A context can be made to log what is asked of it. The log of an evaluation is what a record
of it has as its requests. Trees that come out alike against every context therefore make
the same requests, since the logging context is one of them.
-/

namespace RuleTree

variable {σ : Type}

namespace Context

/-- The machine of a context that counts nothing. -/
def free (context : Context σ) : Machine σ where
  enter _ state := (.ok (), state)
  leave state := state
  read := context.read
  write := context.write

/-- To evaluate a tree is to do what its operator does with the evaluations of its
children, as everyone may enter its node and leaving it does nothing. -/
theorem free_eval (context : Context σ) (expr : Expr) :
    context.free.eval expr =
      context.free.perform expr.tag expr.operator (expr.children.map context.free.eval) :=
  context.free.eval_eq expr

/-- Counting without limits bears on nothing. -/
theorem free_indifferent (context : Context σ) :
    Indifferent context.free (context.machine .none) fun state run => state = run.context where
  enters node node' state run same := by
    rw [context.unlimited_enter]
    exact ⟨rfl, same⟩
  leaves _ _ same := same
  reads key type state run same := by
    subst same
    exact ⟨rfl, rfl⟩
  writes key value state run same := by
    subst same
    exact ⟨rfl, rfl⟩

end Context

/-- An evaluation without limits is one on the machine that counts nothing. -/
theorem Expr.evaluate_eq_free (expr : Expr) (context : Context σ) :
    expr.evaluate context .none = context.free.eval expr := by
  funext state
  obtain ⟨result, after⟩ :=
    context.free_indifferent.lockstep.congruence.eval expr state (.start state) rfl
  exact Prod.ext result.symm after.symm

/-- What a loop does with its items: each in turn is bound to the slot, and the body is
evaluated. -/
def Context.freeLoop (context : Context σ) (tag : Tag) (body : Expr) (key : Key)
    (last result : Value) (items : List Value) : Action σ Value :=
  Machine.repeatBody (context.free.writeAt tag key) (context.free.eval body) last result items

/-- A loop goes through the items of the list that it has evaluated. What may stop it was
evaluated before the first of them. -/
theorem Context.free_loop (context : Context σ) {tag : Tag} {list body : Expr}
    {stop : Option Expr} (key : Key) {unit : Signature} {items : List Value} {last : Value}
    {state listed begun : σ} (occupied : items ≠ [])
    (ofList : context.free.eval list state = (.ok (.list unit items), listed))
    (ofStop : context.free.evalOptional tag stop listed = (.ok last, begun)) :
    context.free.eval (.loop tag list body stop key) state =
      context.freeLoop tag body key last (.nil tag.type) items begun := by
  obtain ⟨item, rest, rfl⟩ := List.exists_cons_of_ne_nil occupied
  rw [Machine.evalOptional_eq] at ofStop
  rw [free_eval]
  change (context.free.eval list >>= _) state = _
  rw [Action.run_bind_ok ofList]
  exact Action.run_bind_ok ofStop

/-- A loop over a constant list that nothing stops begins at once. -/
theorem Context.free_loopConstant (context : Context σ) (tag : Tag) (body : Expr) (key : Key)
    (unit : Signature) {items : List Value} (listed : Position) (state : σ)
    (occupied : items ≠ []) :
    context.free.eval (.loop tag (Build.constant (.list unit items) listed) body none key) state =
      context.freeLoop tag body key (.nil tag.type) (.nil tag.type) items state :=
  context.free_loop key occupied rfl rfl

/-- The requests of an evaluation to its context, in order. -/
def Expr.calls (expr : Expr) (context : Context σ) (limits : Limits) (state : σ) : List Call :=
  (context.machine limits).calls expr (.start state)

/-! ## Logs -/

/-- The state of a context and the requests it has had. -/
structure Logged (σ : Type) where
  state : σ
  log : List Call

namespace Context

/-- The context that answers as a context does and logs the requests. -/
def logging (context : Context σ) : Context (Logged σ) where
  read key type logged :=
    match context.read key type logged.state with
    | (answer, state) => (answer, ⟨state, logged.log ++ [.read key type]⟩)
  write key value logged :=
    match context.write key value logged.state with
    | (answer, state) => (answer, ⟨state, logged.log ++ [.write key value]⟩)

/-- A write that is logged is answered as it would be. -/
theorem logging_write {context : Context σ} {key : Key} {value : Value} {logged : Logged σ}
    {answer : Except ContextError Unit} {after : σ}
    (written : context.write key value logged.state = (answer, after)) :
    context.logging.write key value logged =
      (answer, ⟨after, logged.log ++ [.write key value]⟩) := by
  simp only [logging, written]

/-- To record and to log is the same, as far as requests go. -/
theorem logging_indifferent (context : Context σ) (earlier : List Call) :
    Indifferent context.logging.free (context.machine .none).recording fun logged recorded =>
      logged.state = recorded.state.context ∧ logged.log = earlier ++ recorded.calls where
  enters node node' logged recorded same := by
    rw [Machine.recording_enter_ok (context.unlimited_enter node' recorded.state)]
    exact ⟨rfl, same⟩
  leaves _ _ same := same
  reads key type logged recorded := by
    rintro ⟨states, logs⟩
    refine ⟨?_, ?_, ?_⟩
    · exact congrArg (fun state => (context.read key type state).1) states
    · exact congrArg (fun state => (context.read key type state).2) states
    · exact (congrArg (· ++ [Call.read key type]) logs).trans (List.append_assoc _ _ _)
  writes key value logged recorded := by
    rintro ⟨states, logs⟩
    refine ⟨?_, ?_, ?_⟩
    · exact congrArg (fun state => (context.write key value state).1) states
    · exact congrArg (fun state => (context.write key value state).2) states
    · exact (congrArg (· ++ [Call.write key value]) logs).trans (List.append_assoc _ _ _)

end Context

namespace Expr

/-- An evaluation that is logged is the evaluation itself, and its requests are added to
the log. -/
theorem evaluate_logging (expr : Expr) (context : Context σ) (logged : Logged σ) :
    expr.evaluate context.logging .none logged =
      ((expr.evaluate context .none logged.state).1,
        ⟨(expr.evaluate context .none logged.state).2,
          logged.log ++ expr.calls context .none logged.state⟩) := by
  let machine := context.machine .none
  obtain ⟨results, states, logs⟩ :=
    (context.logging_indifferent logged.log).lockstep.congruence.eval expr logged
      (.start (.start logged.state)) ⟨rfl, (List.append_nil _).symm⟩
  obtain ⟨result, state⟩ := machine.recording_eval expr (.start (.start logged.state))
  rw [evaluate_eq_free expr context.logging]
  refine Prod.ext (results.trans result) ?_
  exact congrArg₂ Logged.mk (states.trans (congrArg RunState.context state)) logs

/-- An evaluation from an empty log ends with the requests in the log. -/
theorem calls_eq_log (expr : Expr) (context : Context σ) (state : σ) :
    expr.calls context .none state = (expr.evaluate context.logging .none ⟨state, []⟩).2.log := by
  rw [evaluate_logging]
  rfl

end Expr

end RuleTree
