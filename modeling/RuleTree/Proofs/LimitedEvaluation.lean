import RuleTree.Expr.Build
import RuleTree.Proofs.LimitCrossing

/-!
# Evaluations under limits

An evaluation under limits is compared with the evaluation without any, from the
same state of the context. Both are recorded, step by step. As long as no limit
is crossed they are in the same state, counters included; where one is crossed,
the evaluation under limits stops, and whatever the other does from there it only
adds to its record. Which of the two it is can be said in terms of the evaluation
without limits alone: of how many nodes it enters and of how deep they are.
-/

namespace RuleTree

variable {σ α : Type}

/-- A record of a run that has stayed within limits: the counters say what has been
recorded, and no attempt to enter has crossed a limit. -/
structure Recorded.Within (recorded : Recorded (RunState σ)) (limits : Limits) : Prop where
  nodes : recorded.state.counters.nodes = recorded.visits.length
  depth : recorded.state.counters.depth = recorded.nesting
  nested : recorded.nesting ≤ recorded.visits.length
  uncrossed : limits.Uncrossed recorded.visits

/-- The record after a node was entered that was counted as it is recorded. -/
def Recorded.entered (recorded : Recorded (RunState σ)) (expr : Expr) : Recorded (RunState σ) :=
  recorded.inside expr { recorded.state with
    counters := ⟨recorded.nesting + 1, recorded.visits.length + 1⟩ }

/-- How a step under limits, which is given first, compares with the step without:
it is the same step and stays within the limits, or it stops at the first attempt
that crosses one, having made no request that the other has not made. -/
inductive Limits.Follows (limits : Limits) :
    Except EvalError α × Recorded (RunState σ) → Except EvalError α × Recorded (RunState σ) → Prop
  | alike (outcome : Except EvalError α × Recorded (RunState σ))
      (within : outcome.2.Within limits) : Follows limits outcome outcome
  | stopped (index : Nat) (visit : Visit (RunState σ)) (failure : Failure)
      (stop : Recorded (RunState σ)) (outcome : Except EvalError α × Recorded (RunState σ))
      (first : limits.FirstCrossing outcome.2.visits index visit failure)
      (calls : stop.calls <+: outcome.2.calls) :
      Follows limits (.error ⟨failure, some visit.node.position⟩, stop) outcome

/-- An action under limits and the action without. From every record within the
limits the one follows the other, unless the counters come to their greatest
value; the other only adds to the record. -/
structure Limits.Mirrors (limits : Limits) (limited free : Action (Recorded (RunState σ)) α) :
    Prop where
  adds : ∀ recorded, (free recorded).2.Extends recorded
  follows : ∀ recorded, recorded.Within limits →
    (free recorded).2.visits.length ≤ Counters.greatest →
    limits.Follows (limited recorded) (free recorded)

namespace Context

variable {context : Context σ} {limits : Limits}

/-- The machine of a context enters a node as its counters do. -/
theorem machine_enter {run : RunState σ} {answer : Except Failure Unit} {counters : Counters}
    (entering : run.counters.enter limits = (answer, counters)) (expr : Expr) :
    (context.machine limits).enter expr run = (answer, { run with counters }) := by
  simp only [machine, entering]

/-- A read does not count. -/
theorem readAt_counters (tag : Tag) (key : Key) (run : RunState σ) :
    ((context.machine limits).readAt tag key run).2.counters = run.counters := by
  rcases answer : context.read key tag.type run.context with ⟨_ | _, _⟩ <;>
    simp only [Machine.readAt, Action.ofRequest, machine, answer]

/-- A write does not count. -/
theorem writeAt_counters (tag : Tag) (key : Key) (value : Value) (run : RunState σ) :
    ((context.machine limits).writeAt tag key value run).2.counters = run.counters := by
  rcases answer : context.write key value run.context with ⟨_ | _, _⟩ <;>
    simp only [Machine.writeAt, Action.ofRequest, machine, answer]

end Context

namespace Recorded.Within

variable {limits : Limits} {recorded : Recorded (RunState σ)}

/-- Nothing has been recorded yet. -/
theorem start (limits : Limits) (state : σ) : (start (.start state)).Within limits where
  nodes := rfl
  depth := rfl
  nested := Nat.le_refl 0
  uncrossed _ _ impossible := nomatch impossible

/-- A request neither counts nor enters. -/
theorem request (within : recorded.Within limits) {run : RunState σ} (calls : List Call)
    (uncounted : run.counters = recorded.state.counters) :
    { recorded with state := run, calls }.Within limits where
  nodes := uncounted ▸ within.nodes
  depth := uncounted ▸ within.depth
  nested := within.nested
  uncrossed := within.uncrossed

/-- Without limits there is nothing to cross. -/
theorem unlimited (within : recorded.Within limits) : recorded.Within .none where
  nodes := within.nodes
  depth := within.depth
  nested := within.nested
  uncrossed _ _ _ _ := Limits.not_crossed_none

/-- Entering counts what is recorded. -/
theorem entered (within : recorded.Within limits) (expr : Expr)
    (admitted : ∀ failure,
      ¬ limits.Crossed (recorded.visits.length + 1) (recorded.nesting + 1) failure) :
    (recorded.entered expr).Within limits where
  nodes := (recorded.length_inside expr _).symm
  depth := rfl
  nested := by
    have counted : (recorded.entered expr).visits.length = recorded.visits.length + 1 :=
      recorded.length_inside expr _
    rw [counted]
    exact Nat.succ_le_succ within.nested
  uncrossed := within.uncrossed.concat admitted

/-- Leaving takes back what entering added to the nesting. -/
theorem leave (within : recorded.Within limits) (context : Context σ) (other : Limits) :
    ((context.machine other).recording.leave recorded).Within limits where
  nodes := within.nodes
  depth := congrArg (· - 1) within.depth
  nested := Nat.le_trans (Nat.sub_le _ 1) within.nested
  uncrossed := within.uncrossed

/-- The counters have come no further than the record. -/
theorem below (within : recorded.Within limits)
    (counted : recorded.visits.length < Counters.greatest) :
    recorded.state.counters.nodes < Counters.greatest ∧
      recorded.state.counters.depth < Counters.greatest := by
  rw [within.nodes, within.depth]
  exact ⟨counted, Nat.lt_of_le_of_lt within.nested counted⟩

/-- A node that crosses a limit is refused for it. -/
theorem refuses (within : recorded.Within limits) (context : Context σ) (expr : Expr)
    (counted : recorded.visits.length < Counters.greatest) {failure : Failure}
    (crossed : limits.Crossed (recorded.visits.length + 1) (recorded.nesting + 1) failure) :
    ∃ state, (context.machine limits).recording.enter expr recorded =
      (.error failure, recorded.outside expr state) := by
  obtain ⟨nodes, depth⟩ := within.below counted
  rw [← within.nodes, ← within.depth] at crossed
  have refused := context.machine_enter (Counters.enter_crossed nodes depth crossed)
  exact ⟨_, Machine.recording_enter_error (refused expr)⟩

/-- A node that crosses no limit is entered. -/
theorem admits (within : recorded.Within limits) (context : Context σ) (expr : Expr)
    (counted : recorded.visits.length < Counters.greatest)
    (admitted : ∀ failure,
      ¬ limits.Crossed (recorded.visits.length + 1) (recorded.nesting + 1) failure) :
    (context.machine limits).recording.enter expr recorded = (.ok (), recorded.entered expr) := by
  obtain ⟨nodes, depth⟩ := within.below counted
  rw [← within.nodes, ← within.depth] at admitted
  have entering := context.machine_enter (Counters.enter_uncrossed nodes depth admitted) expr
  rw [within.nodes, within.depth] at entering
  exact Machine.recording_enter_ok entering

end Recorded.Within

namespace Limits

variable {limits : Limits} {context : Context σ}

/-- A read under limits is a read. -/
theorem readAt_mirrors (tag : Tag) (key : Key) :
    limits.Mirrors ((context.machine limits).recording.readAt tag key)
      ((context.machine .none).recording.readAt tag key) where
  adds := (context.machine .none).readAt_extends tag key
  follows recorded within _ := by
    have same : (context.machine limits).recording.readAt tag key recorded =
        (context.machine .none).recording.readAt tag key recorded := rfl
    rw [same, Machine.recording_readAt]
    exact .alike _ (within.request _ (Context.readAt_counters tag key recorded.state))

/-- A write under limits is a write. -/
theorem writeAt_mirrors (tag : Tag) (key : Key) (value : Value) :
    limits.Mirrors ((context.machine limits).recording.writeAt tag key value)
      ((context.machine .none).recording.writeAt tag key value) where
  adds := (context.machine .none).writeAt_extends tag key value
  follows recorded within _ := by
    have same : (context.machine limits).recording.writeAt tag key value recorded =
        (context.machine .none).recording.writeAt tag key value recorded := rfl
    rw [same, Machine.recording_writeAt]
    exact .alike _ (within.request _ (Context.writeAt_counters tag key value recorded.state))

/-- A sequence mirrors the sequence of what its parts mirror.

Proof: if the first part is the same on both sides, so is what it yields or why it
fails, and the second part goes on from one state. If the first part has stopped
at a limit, the second part adds nothing on the one side, and on the other cannot
take back what was crossed. -/
theorem Mirrors.bind {β : Type} {first first' : Action (Recorded (RunState σ)) α}
    {next next' : α → Action (Recorded (RunState σ)) β} (before : limits.Mirrors first first')
    (later : ∀ result, limits.Mirrors (next result) (next' result)) :
    limits.Mirrors (first >>= next) (first' >>= next') where
  adds := Action.bind_extends before.adds fun result => (later result).adds
  follows recorded within counted := by
    have side := before.follows recorded within
    rcases free : first' recorded with ⟨error | result, middle⟩
    · rw [Action.run_bind_error free] at counted ⊢
      rw [free] at side
      have compared := side counted
      rcases limited : first recorded with ⟨outcome, after⟩
      rw [limited] at compared
      cases compared with
      | alike _ within =>
        rw [Action.run_bind_error limited]
        exact .alike _ within
      | stopped index visit failure _ _ crossing calls =>
        rw [Action.run_bind_error limited]
        exact .stopped index visit failure _ _ crossing calls
    · rw [Action.run_bind_ok free] at counted ⊢
      rw [free] at side
      have added := (later result).adds middle
      have compared := side (Nat.le_trans added.visits.length_le counted)
      rcases limited : first recorded with ⟨outcome, after⟩
      rw [limited] at compared
      cases compared with
      | alike _ within =>
        rw [Action.run_bind_ok limited]
        exact (later result).follows middle within counted
      | stopped index visit failure _ _ crossing calls =>
        rw [Action.run_bind_error limited]
        exact .stopped index visit failure _ _ (crossing.extend added.visits)
          (calls.trans added.calls)

/-- Leaving a node keeps what has been compared. -/
theorem Follows.leave {limited free : Except EvalError α × Recorded (RunState σ)}
    (compared : limits.Follows limited free) :
    limits.Follows (limited.1, (context.machine limits).recording.leave limited.2)
      (free.1, (context.machine .none).recording.leave free.2) := by
  cases compared with
  | alike _ within => exact .alike _ (within.leave context limits)
  | stopped index visit failure _ _ first calls =>
    exact .stopped index visit failure _ _ first calls

/-- A node under limits is refused if it crosses one, and otherwise mirrors the node
as its body does.

Proof: without limits the node is entered, so the counters have come no further
than they may and both sides count alike. If the node crosses a limit, it is the
first to do so, and whatever its body does without limits comes later. If it does
not, both bodies start from one record within the limits. -/
theorem node_mirrors (expr : Expr) {body body' : Action (Recorded (RunState σ)) Value}
    (bodies : limits.Mirrors body body') :
    limits.Mirrors ((context.machine limits).recording.node expr body)
      ((context.machine .none).recording.node expr body') where
  adds := (context.machine .none).node_extends expr bodies.adds
  follows recorded within counted := by
    have visited := (context.machine .none).node_visits expr bodies.adds recorded
    have below : recorded.visits.length < Counters.greatest := by
      have counts := Nat.le_trans visited.length_le counted
      rw [List.length_append] at counts
      exact counts
    have free := within.unlimited.admits context expr below fun _ => not_crossed_none
    have added := bodies.adds (recorded.entered expr)
    rw [Machine.node_entered free] at counted ⊢
    by_cases crossing : ∃ failure,
        limits.Crossed (recorded.visits.length + 1) (recorded.nesting + 1) failure
    · obtain ⟨failure, crossed⟩ := crossing
      obtain ⟨state, refused⟩ := within.refuses context expr below crossed
      rw [Machine.node_refused refused]
      have first : limits.FirstCrossing (recorded.visits ++ [recorded.visit expr])
          recorded.visits.length (recorded.visit expr) failure :=
        within.uncrossed.firstCrossing crossed
      exact .stopped _ (recorded.visit expr) failure _ _ (first.extend added.visits) added.calls
    · have admitted : ∀ failure,
          ¬ limits.Crossed (recorded.visits.length + 1) (recorded.nesting + 1) failure :=
        fun failure crossed => crossing ⟨failure, crossed⟩
      have entering := within.admits context expr below admitted
      have compared := bodies.follows _ (within.entered expr admitted) counted
      rw [Machine.node_entered entering]
      exact compared.leave

/-- Evaluations under limits mirror evaluations without. -/
theorem mirror_correspondence (limits : Limits) (context : Context σ) :
    Correspondence (context.machine limits).recording (context.machine .none).recording
      (fun _ => True) fun _ => limits.Mirrors where
  result _ := ⟨fun recorded => .refl recorded, fun _ within _ => .alike _ within⟩
  refusal _ _ := ⟨fun recorded => .refl recorded, fun _ within _ => .alike _ within⟩
  sequence := Mirrors.bind
  slot tag _ key _ := readAt_mirrors tag key
  setSlot tag _ key _ _ value := writeAt_mirrors tag key value
  loop tag _ _ _ key _ item := writeAt_mirrors tag key item
  node expr _ _ _ _ _ bodies := node_mirrors expr bodies

end Limits

namespace Expr

/-- The nodes that are entered when a tree is evaluated without limits. -/
def freeVisits (expr : Expr) (context : Context σ) (state : σ) : List (Visit (RunState σ)) :=
  (context.machine .none).visits expr (.start state)

/-- The evaluation of a tree under limits follows the evaluation without. -/
theorem record_follows (expr : Expr) (context : Context σ) (limits : Limits) {state : σ}
    (counted : (expr.freeVisits context state).length ≤ Counters.greatest) :
    limits.Follows ((context.machine limits).recording.eval expr (.start (.start state)))
      ((context.machine .none).recording.eval expr (.start (.start state))) :=
  ((Limits.mirror_correspondence limits context).eval expr fun _ _ => trivial).follows _
    (.start limits state) counted

/-- A run without limits counts the nodes that it enters. -/
theorem counters_of_freeVisits (expr : Expr) (context : Context σ) (state : σ)
    (counted : (expr.freeVisits context state).length ≤ Counters.greatest) :
    (expr.evaluateIn context .none (.start state)).2.counters.nodes =
      (expr.freeVisits context state).length := by
  have compared := expr.record_follows context .none counted
  have same := ((context.machine .none).recording_eval expr (.start (.start state))).2
  have within : ((context.machine .none).recording.eval expr (.start (.start state))).2.Within
      .none := by
    rcases ran : (context.machine .none).recording.eval expr (.start (.start state)) with outcome
    rw [ran] at compared
    cases compared with
    | alike _ within => exact within
    | stopped index visit failure _ _ first => exact absurd first.crossed Limits.not_crossed_none
  exact (congrArg (·.counters.nodes) same).symm.trans within.nodes

/-- Limits are exact. Given what the evaluation of a tree enters without limits, and
that the counters can count it, which they then do: if each limit allows for it, the
evaluation under limits has the same result and ends in the same state, counters
included. If one does not, the evaluation fails at the first attempt to enter a node that crosses
one, at the position of that node, and the requests that it has made to the context
are the first of those that are made without limits.

Proof: one evaluation follows the other. If it is alike, no attempt has crossed a
limit; if it has stopped, there is an attempt that did. -/
theorem limits_exact (expr : Expr) (context : Context σ) (limits : Limits) (state : σ)
    (counted : (expr.freeVisits context state).length ≤ Counters.greatest) :
    (expr.evaluateIn context .none (.start state)).2.counters.nodes =
      (expr.freeVisits context state).length ∧
    (limits.Suffice (expr.freeVisits context state).length
        (Visit.deepest (expr.freeVisits context state)) →
      expr.evaluateIn context limits (.start state) =
        expr.evaluateIn context .none (.start state)) ∧
    (¬ limits.Suffice (expr.freeVisits context state).length
        (Visit.deepest (expr.freeVisits context state)) →
      ∃ index visit failure,
        limits.FirstCrossing (expr.freeVisits context state) index visit failure ∧
        (expr.evaluateIn context limits (.start state)).1 =
          .error ⟨failure, some visit.node.position⟩ ∧
        (context.machine limits).calls expr (.start state) <+:
          (context.machine .none).calls expr (.start state)) := by
  refine ⟨expr.counters_of_freeVisits context state counted, ?_⟩
  have compared := expr.record_follows context limits counted
  obtain ⟨limitedResult, limitedState⟩ :=
    (context.machine limits).recording_eval expr (.start (.start state))
  obtain ⟨freeResult, freeState⟩ :=
    (context.machine .none).recording_eval expr (.start (.start state))
  unfold freeVisits Machine.visits Machine.calls Machine.record
  rcases limited : (context.machine limits).recording.eval expr (.start (.start state))
    with ⟨limitedOutcome, stop⟩
  rcases free : (context.machine .none).recording.eval expr (.start (.start state))
    with ⟨freeOutcome, final⟩
  rw [limited, free] at compared
  rw [limited] at limitedResult limitedState
  rw [free] at freeResult freeState
  cases compared with
  | alike _ within =>
    refine ⟨fun _ => ?_, fun insufficient => ?_⟩
    · exact Prod.ext (limitedResult.symm.trans freeResult) (limitedState.symm.trans freeState)
    · exact absurd (Limits.suffice_iff_uncrossed.mpr within.uncrossed) insufficient
  | stopped index visit failure _ _ first calls =>
    refine ⟨fun suffice => absurd suffice first.not_suffice, fun _ => ?_⟩
    exact ⟨index, visit, failure, first, limitedResult.symm, calls⟩

/-- Two integers that are written to one slot, one after the other. -/
def writeTwice : Expr :=
  .sequence ⟨⟨1, 1⟩, .integer⟩
    [Build.setSlot "x" (.named "x") (Build.constant (.integer 1) ⟨1, 5⟩) ⟨1, 1⟩,
      Build.setSlot "x" (.named "x") (Build.constant (.integer 2) ⟨2, 5⟩) ⟨2, 1⟩]

/-- With a budget of three nodes of five, the second write is refused. -/
theorem limits_exact_writeTwice :
    (writeTwice.freeVisits Slots.context .empty).length = 5 ∧
      ∃ index visit failure,
        Limits.FirstCrossing ⟨some 3, some 3⟩ (writeTwice.freeVisits Slots.context .empty) index
          visit failure ∧
        (writeTwice.evaluateIn Slots.context ⟨some 3, some 3⟩ (.start .empty)).1 =
          .error ⟨failure, some visit.node.position⟩ ∧
        (Slots.context.machine ⟨some 3, some 3⟩).calls writeTwice (.start .empty) <+:
          (Slots.context.machine .none).calls writeTwice (.start .empty) := by
  have entered : (writeTwice.freeVisits Slots.context .empty).length = 5 := rfl
  have counted : (writeTwice.freeVisits Slots.context .empty).length ≤ Counters.greatest := by
    rw [entered]
    decide
  refine ⟨entered, ?_⟩
  refine (writeTwice.limits_exact Slots.context ⟨some 3, some 3⟩ .empty counted).2.2 ?_
  intro suffice
  have allowed := suffice.budget 3 rfl
  rw [entered] at allowed
  exact absurd allowed (by decide)

end Expr

end RuleTree
