import RuleTree.Proofs.FailStop

/-!
# Runs of several evaluations

The counters of a run go on from one evaluation to the next. Whatever an evaluation
has come to, it leaves every node that it has entered, so the depth is where it was;
the count of nodes has gone up by the nodes that were attempted. Earlier evaluations
therefore bear on later ones through the state of the context and through the budget.
As long as the budget lasts an evaluation is what it would be in a run of its own,
and once it is spent nothing more is evaluated.
-/

namespace RuleTree

variable {σ α β : Type} {context : Context σ} {limits : Limits}

/-- The run in which trees were evaluated one after another, whatever each has come
to. -/
def Context.runAfter (context : Context σ) (limits : Limits) (run : RunState σ)
    (trees : List Expr) : RunState σ :=
  trees.foldl (fun run expr => (expr.evaluateIn context limits run).2) run

/-- What each evaluation keeps of a run, several keep. -/
theorem Context.runAfter_keeps (Holds : RunState σ → Prop)
    (keeps : ∀ (expr : Expr) (run : RunState σ), Holds run →
      Holds (expr.evaluateIn context limits run).2)
    (trees : List Expr) {run : RunState σ} (held : Holds run) :
    Holds (context.runAfter limits run trees) := by
  induction trees generalizing run with
  | nil => exact held
  | cons first rest inductionHypothesis => exact inductionHypothesis (keeps first run held)

/-! ## What is counted -/

/-- What the counters of a run say of its record: they have gone up by the nodes that
were attempted, as far as they can, and are no deeper than it is. -/
structure Recorded.Counted (before : Nat) (recorded : Recorded (RunState σ)) : Prop where
  nodes : recorded.state.counters.nodes = min (before + recorded.visits.length) Counters.greatest
  depth : recorded.state.counters.depth ≤ recorded.nesting

/-- One more attempt is counted, be it refused or not. -/
theorem Recorded.Counted.attempt {before : Nat} {recorded : Recorded (RunState σ)}
    (counted : recorded.Counted before) (node : Expr) :
    Counters.next recorded.state.counters.nodes =
      min (before + (recorded.visits ++ [recorded.visit node]).length) Counters.greatest := by
  rw [counted.nodes, List.length_append, List.length_singleton, Counters.next]
  omega

/-- The counters keep step with the record. -/
theorem Recorded.counted_preserves (context : Context σ) (limits : Limits) (before : Nat) :
    (context.machine limits).recording.Preserves (fun _ => True) (Recorded.Counted before) where
  enters node _ recorded counted := by
    have attempt := counted.attempt node
    rcases recorded.state.counters.enter_cases limits with
      ⟨failure, _, entering⟩ | ⟨_, entering⟩
    · rw [Machine.recording_enter_error (context.machine_enter entering node)]
      exact ⟨attempt, counted.depth⟩
    · rw [Machine.recording_enter_ok (context.machine_enter entering node)]
      exact ⟨attempt, Nat.le_trans (Nat.min_le_left _ _) (Nat.succ_le_succ counted.depth)⟩
  leaves _ counted := ⟨counted.nodes, Nat.sub_le_sub_right counted.depth 1⟩
  reads _ _ _ _ _ counted := ⟨counted.nodes, counted.depth⟩
  writes _ _ _ _ _ _ counted := ⟨counted.nodes, counted.depth⟩

/-- A run that is inside of no node. -/
structure RunState.Resting (run : RunState σ) : Prop where
  depth : run.counters.depth = 0
  nodes : run.counters.nodes ≤ Counters.greatest

namespace RunState.Resting

variable {run : RunState σ}

/-- A run that has not begun is inside of no node. -/
theorem start (state : σ) : (RunState.start state).Resting := ⟨rfl, Nat.zero_le _⟩

/-- An evaluation from a run that is inside of no node ends outside of every node, and
counts what it has attempted to enter.

Proof: the record ends at the nesting at which it began, and the depth is not below
zero. -/
theorem evaluateIn (resting : run.Resting) (context : Context σ) (limits : Limits)
    (expr : Expr) :
    let after := (expr.evaluateIn context limits run).2
    after.Resting ∧ after.counters.nodes =
      min (run.counters.nodes + ((context.machine limits).visits expr run).length)
        Counters.greatest := by
  have before : (Recorded.start run).Counted run.counters.nodes :=
    ⟨(Nat.min_eq_left resting.nodes).symm, Nat.le_of_eq resting.depth⟩
  obtain ⟨nodes, depth⟩ :=
    (Recorded.counted_preserves context limits _).eval expr (fun _ _ => trivial) before
  have nesting := ((context.machine limits).recording_extends expr (.start run)).nesting
  rw [((context.machine limits).recording_eval expr (.start run)).2] at nodes depth
  rw [nesting] at depth
  refine ⟨⟨Nat.eq_zero_of_le_zero depth, ?_⟩, nodes⟩
  exact Nat.le_trans (Nat.le_of_eq nodes) (Nat.min_le_right _ _)

/-- After any evaluations a run is inside of no node. -/
theorem runAfter (resting : run.Resting) (context : Context σ) (limits : Limits)
    (trees : List Expr) : (context.runAfter limits run trees).Resting :=
  Context.runAfter_keeps Resting (fun expr _ rests => (rests.evaluateIn context limits expr).1)
    trees resting

end RunState.Resting

/-! ## Every node that is left was entered -/

/-- What steps add to a journal of a run: wherever a node was left, the depth was not
zero. Afterwards it is what it was. -/
def Journal.Balanced (journal : Journal (RunState σ))
    (outcome : Except EvalError α × Journal (RunState σ)) : Prop :=
  Action.Adds Journal.exits (·.state.counters.depth)
    (fun added _ => ∀ met ∈ added, met.counters.depth ≠ 0) journal outcome

/-- Steps that leave no node. -/
theorem Journal.Balanced.quiet {journal : Journal (RunState σ)}
    {outcome : Except EvalError α × Journal (RunState σ)}
    (depth : outcome.2.state.counters.depth = journal.state.counters.depth)
    (exits : outcome.2.exits = journal.exits) : journal.Balanced outcome :=
  .nothing (fun _ impossible => absurd impossible List.not_mem_nil) depth exits

/-- A request leaves no node. -/
theorem Journal.Balanced.ofRequest {journal : Journal (RunState σ)} (position : Position)
    {request : Journal (RunState σ) → Except ContextError α × Journal (RunState σ)}
    (depth : (request journal).2.state.counters.depth = journal.state.counters.depth)
    (exits : (request journal).2.exits = journal.exits) :
    journal.Balanced (Action.ofRequest position request journal) := by
  rw [← Action.run_ofRequest_state position] at depth exits
  exact .quiet depth exits

/-- A node is left after steps that began one deeper.

Proof: the depth at which it is left is the one at which they began, which is not
zero. -/
theorem Journal.Balanced.leave {journal inner : Journal (RunState σ)}
    {outcome : Except EvalError α × Journal (RunState σ)} (balanced : inner.Balanced outcome)
    (deeper : inner.state.counters.depth = journal.state.counters.depth + 1)
    (same : inner.exits = journal.exits) :
    journal.Balanced (outcome.1, (context.machine limits).journaling.leave outcome.2) := by
  obtain ⟨restored, added, exits, positive⟩ := balanced
  have depth : outcome.2.state.counters.depth = journal.state.counters.depth + 1 :=
    restored.trans deeper
  rw [same] at exits
  refine ⟨congrArg (· - 1) depth, added ++ [outcome.2.state], ?_, ?_⟩
  · exact (congrArg (· ++ [outcome.2.state]) exits).trans (List.append_assoc _ _ _)
  · refine List.forall_mem_append.mpr ⟨positive, List.forall_mem_singleton.mpr ?_⟩
    rw [depth]
    exact Nat.succ_ne_zero _

/-- The steps of a node and whole trees are balanced as long as the counter can go as
deep as the tree has nodes.

Proof: what a node is inside of goes one deeper, and a child has fewer nodes than the
node it is of. -/
theorem Journal.balanced_nodewise (context : Context σ) (limits : Limits) :
    Nodewise (context.machine limits).journaling (context.machine limits).journaling
      (fun owner _ action _ => ∀ journal : Journal (RunState σ),
        journal.state.counters.depth + owner.nodes.length ≤ Counters.greatest + 1 →
          journal.Balanced (action journal))
      (fun expr action _ => ∀ journal : Journal (RunState σ),
        journal.state.counters.depth + expr.nodes.length ≤ Counters.greatest →
          journal.Balanced (action journal)) where
  result _ _ _ _ _ := .quiet rfl rfl
  refusal _ _ _ _ _ := .quiet rfl rfl
  sequence _ _ _ _ _ _ _ before later journal room := by
    refine .sequence (fun _ _ _ here there => List.forall_mem_append.mpr ⟨here, there⟩)
      (before journal room) fun result middle same => later result middle ?_
    exact same ▸ room
  read _ _ _ _ _ := .ofRequest _ rfl rfl
  write _ _ _ _ _ _ := .ofRequest _ rfl rfl
  child below trees journal room := by
    have fewer := Expr.length_nodes_lt_of_mem_children below
    exact trees journal (by omega)
  node expr body _ _ _ bodies journal room := by
    have counted : 0 < expr.nodes.length := List.length_pos_of_mem expr.mem_nodes_self
    rcases journal.state.counters.enter_cases limits with ⟨_, _, entering⟩ | ⟨_, entering⟩
    · have refused := Machine.journaling_enter_error (context.machine_enter entering expr)
      rw [Machine.node_refused refused]
      exact .quiet rfl rfl
    · rw [Counters.next_eq (by omega)] at entering
      have entered := Machine.journaling_enter_ok (context.machine_enter entering expr)
      rw [Machine.node_entered entered]
      refine (bodies _ ?_).leave rfl rfl
      -- One deeper, and the node itself no longer among those that are still to come.
      have deeper : journal.state.counters.depth + 1 + expr.nodes.length ≤
          Counters.greatest + 1 := by omega
      exact deeper

/-- In an evaluation from a run that is inside of no node, no node is left at depth
zero. -/
theorem RunState.Resting.exits_positive {run : RunState σ} (resting : run.Resting)
    (context : Context σ) (limits : Limits) {expr : Expr}
    (room : expr.nodes.length ≤ Counters.greatest) :
    ∀ met ∈ (context.machine limits).exits expr run, met.counters.depth ≠ 0 := by
  have below : (Journal.start run).state.counters.depth + expr.nodes.length ≤
      Counters.greatest := by
    have start : (Journal.start run).state.counters.depth = 0 := resting.depth
    omega
  obtain ⟨_, added, exits, positive⟩ :=
    (Journal.balanced_nodewise context limits).eval expr (.start run) below
  have same : (context.machine limits).exits expr run = added := exits
  rw [same]
  exact positive

/-! ## When the budget is spent -/

/-- A run has counted more nodes than its budget allows. -/
structure Limits.Exhausted (limits : Limits) (budget : Nat) (run : RunState σ) : Prop where
  set : limits.nodeBudget = some budget
  spent : budget < run.counters.nodes

/-- A failure for the budget is one of a run that has exhausted it. -/
def Limits.Spends (limits : Limits) (error : EvalError) (run : RunState σ) : Prop :=
  ∀ budget, error.failure = .budgetExceeded budget → limits.Exhausted budget run

/-- A request does not fail for the budget. -/
theorem Limits.request_keeps (limits : Limits) (position : Position)
    (request : RunState σ → Except ContextError α × RunState σ) :
    (Action.ofRequest position request).Keeps (fun _ => True) limits.Spends fun _ => True :=
  .ofRequest (fun _ _ _ _ _ => ⟨trivial, trivial⟩) fun _ _ _ _ _ _ impossible => nomatch impossible

/-- An evaluation that fails for the budget has exhausted it.

Proof: the node that was refused for it was counted, and no count is taken back. -/
theorem Limits.budget_correspondence (context : Context σ) (limits : Limits) :
    Correspondence (context.machine limits) (context.machine limits) (fun _ => True)
      fun _ action _ => action.Keeps (fun _ => True) limits.Spends fun _ => True where
  result _ := .pure trivial
  refusal _ _ _ _ _ impossible := nomatch impossible
  sequence before later := before.bind fun result _ => later result
  slot _ _ _ _ := limits.request_keeps _ _
  setSlot _ _ _ _ _ _ := limits.request_keeps _ _
  loop _ _ _ _ _ _ _ := limits.request_keeps _ _
  node expr body _ _ _ _ bodies run _ := by
    rcases run.counters.enter_cases limits with ⟨failure, crossed, entering⟩ | ⟨_, entering⟩
    · rw [Machine.node_refused (context.machine_enter entering expr)]
      rintro budget rfl
      cases crossed with
      | budget _ set exceeded => exact ⟨set, exceeded⟩
    · rw [Machine.node_entered (context.machine_enter entering expr)]
      refine (bodies _ trivial).leave (fun _ _ => trivial) fun error after failed budget same => ?_
      exact ⟨(failed budget same).set, (failed budget same).spent⟩

namespace Limits.Exhausted

variable {budget : Nat} {run : RunState σ}

/-- A run that has failed for the budget has spent it. -/
theorem ofFailure {expr : Expr} {position : Option Position}
    (failed : (expr.evaluateIn context limits run).1 =
      .error ⟨.budgetExceeded budget, position⟩) :
    limits.Exhausted budget (expr.evaluateIn context limits run).2 := by
  have kept : Action.Kept _ _ _ (expr.evaluateIn context limits run) :=
    (budget_correspondence context limits).eval expr (fun _ _ => trivial) run trivial
  rcases ran : expr.evaluateIn context limits run with ⟨outcome, after⟩
  rw [ran] at failed kept
  dsimp only at failed
  subst failed
  exact kept budget rfl

/-- A budget that is spent remains so. -/
theorem evaluateIn (exhausted : limits.Exhausted budget run) (resting : run.Resting)
    (context : Context σ) (expr : Expr) :
    limits.Exhausted budget (expr.evaluateIn context limits run).2 where
  set := exhausted.set
  spent := by
    have counted := (resting.evaluateIn context limits expr).2
    have spent := exhausted.spent
    have nodes := resting.nodes
    omega

/-- A budget that is spent remains so through any evaluations. -/
theorem runAfter (exhausted : limits.Exhausted budget run) (resting : run.Resting)
    (context : Context σ) (trees : List Expr) :
    limits.Exhausted budget (context.runAfter limits run trees) := by
  have kept : (context.runAfter limits run trees).Resting ∧
      limits.Exhausted budget (context.runAfter limits run trees) := by
    apply Context.runAfter_keeps fun run => run.Resting ∧ limits.Exhausted budget run
    · rintro expr run ⟨rests, spent⟩
      exact ⟨(rests.evaluateIn context limits expr).1, spent.evaluateIn rests context expr⟩
    · exact ⟨resting, exhausted⟩
  exact kept.2

/-- Where the budget is spent nothing is entered. -/
theorem enter (exhausted : limits.Exhausted budget run) (resting : run.Resting)
    (context : Context σ) (node : Expr) :
    (context.machine limits).enter node run =
      (.error (.budgetExceeded budget),
        { run with counters := ⟨run.counters.depth, Counters.next run.counters.nodes⟩ }) := by
  have exceeded := Nat.lt_of_lt_of_le exhausted.spent (Counters.le_next resting.nodes)
  exact context.machine_enter (Counters.enter_refuses (.budget budget exhausted.set exceeded)) node

/-- Where the budget is spent an evaluation fails for it at the root and makes no
request. -/
theorem refuses (exhausted : limits.Exhausted budget run) (resting : run.Resting)
    (context : Context σ) (expr : Expr) :
    (expr.evaluateIn context limits run).1 =
        .error ⟨.budgetExceeded budget, some expr.position⟩ ∧
      (context.machine limits).calls expr run = [] := by
  have entering := exhausted.enter resting context expr
  have recording : (context.machine limits).recording.enter expr (.start run) = _ :=
    Machine.recording_enter_error entering
  constructor
  · exact congrArg Prod.fst (Machine.eval_refused entering)
  · exact congrArg (·.2.calls) (Machine.eval_refused recording)

end Limits.Exhausted

/-! ## Evaluations in a run and on their own -/

/-- A run that has counted at least as many nodes as another and is otherwise the
same. -/
structure RunState.Ahead (run behind : RunState σ) : Prop where
  depth : run.counters.depth = behind.counters.depth
  context : run.context = behind.context
  nodes : behind.counters.nodes ≤ run.counters.nodes

/-- How an evaluation compares with one in a run that is behind: it fails for the budget,
or they come out alike. -/
def RunState.Outpaces (outcome outcome' : Except EvalError α × RunState σ) : Prop :=
  (∃ budget position, outcome.1 = .error ⟨.budgetExceeded budget, position⟩) ∨
    Alike RunState.Ahead outcome outcome'

namespace RunState.Ahead

variable {run behind : RunState σ}

/-- A node is refused for the budget, or entered alike: the depth of both runs is the
same, and what the budget allows the one it allows the other. -/
theorem enter (ahead : run.Ahead behind) (context : Context σ) (limits : Limits) (node : Expr) :
    (∃ budget refused, (context.machine limits).enter node run =
      (.error (.budgetExceeded budget), refused)) ∨
    Alike Ahead ((context.machine limits).enter node run)
      ((context.machine limits).enter node behind) := by
  have nodes : Counters.next behind.counters.nodes ≤ Counters.next run.counters.nodes :=
    Counters.next_mono ahead.nodes
  rcases run.counters.enter_cases limits with ⟨failure, crossed, entering⟩ | ⟨within, entering⟩
  · rw [context.machine_enter entering]
    cases crossed with
    | budget budget set exceeded => exact .inl ⟨budget, _, rfl⟩
    | depth limit set afforded exceeded =>
      have crossed : limits.Crossed (Counters.next behind.counters.nodes)
          (Counters.next behind.counters.depth) (.depthExceeded limit) :=
        .depth limit set (fun budget set => Nat.le_trans nodes (afforded budget set))
          (ahead.depth ▸ exceeded)
      rw [context.machine_enter (Counters.enter_refuses crossed)]
      exact .inr ⟨rfl, ahead.depth, ahead.context, nodes⟩
  · have nestings : Counters.next behind.counters.depth ≤ Counters.next run.counters.depth :=
      Nat.le_of_eq (congrArg Counters.next ahead.depth.symm)
    have admitted := Counters.enter_admits fun failure =>
      Limits.not_crossed_of_le within nodes nestings
    rw [context.machine_enter entering, context.machine_enter admitted]
    exact .inr ⟨rfl, congrArg Counters.next ahead.depth, ahead.context, nodes⟩

/-- Leaving a node keeps a run ahead. -/
theorem leave (ahead : run.Ahead behind) (context : Context σ) (limits : Limits) :
    ((context.machine limits).leave run).Ahead ((context.machine limits).leave behind) where
  depth := congrArg (· - 1) ahead.depth
  context := ahead.context
  nodes := ahead.nodes

/-- A request is answered from the state of the context, which both runs share. -/
theorem request (ahead : run.Ahead behind) (position : Position)
    (request : σ → Except ContextError α × σ) :
    Alike Ahead
      (Action.ofRequest position (fun run : RunState σ =>
        ((request run.context).1, { run with context := (request run.context).2 })) run)
      (Action.ofRequest position (fun run : RunState σ =>
        ((request run.context).1, { run with context := (request run.context).2 })) behind) := by
  refine .ofRequest ⟨?_, ahead.depth, ?_, ahead.nodes⟩
  · exact congrArg (fun state => (request state).1) ahead.context
  · exact congrArg (fun state => (request state).2) ahead.context

end RunState.Ahead

/-- Evaluations in runs of which one is ahead compare node by node. Only the budget can
tell them apart, and whoever fails for it fails altogether. -/
theorem Limits.pace_correspondence (context : Context σ) (limits : Limits) :
    Correspondence (context.machine limits) (context.machine limits) (fun _ => True)
      fun _ action action' => ∀ run behind : RunState σ, run.Ahead behind →
        RunState.Outpaces (action run) (action' behind) where
  result _ _ _ ahead := .inr ⟨rfl, ahead⟩
  refusal _ _ _ _ ahead := .inr ⟨rfl, ahead⟩
  sequence {_ _ first _ _ _} before later run behind ahead := by
    rcases before run behind ahead with ⟨budget, position, spent⟩ | alike
    · -- The run that is ahead has stopped, whatever the other goes on to do.
      rcases ran : first run with ⟨outcome, after⟩
      rw [ran] at spent
      dsimp only at spent
      subst spent
      rw [Action.run_bind_error ran]
      exact .inl ⟨budget, position, rfl⟩
    · exact alike.andThen (fun _ _ _ reached => .inr ⟨rfl, reached⟩) later
  slot tag _ key _ _ _ ahead := .inr (ahead.request tag.position (context.read key tag.type))
  setSlot tag _ key _ _ result _ _ ahead :=
    .inr (ahead.request tag.position (context.write key result))
  loop tag _ _ _ key _ item _ _ ahead :=
    .inr (ahead.request tag.position (context.write key item))
  node expr _ _ _ _ _ bodies run behind ahead := by
    rcases ahead.enter context limits expr with ⟨budget, refused, entering⟩ | alike
    · rw [Machine.node_refused entering]
      exact .inl ⟨budget, some expr.position, rfl⟩
    · refine alike.enclose rfl (fun _ _ _ reached => .inr ⟨rfl, reached⟩) ?_
      intro entered entered' reached
      rcases bodies entered entered' reached with spent | ⟨same, ended⟩
      · exact .inl spent
      · exact .inr ⟨same, ended.leave context limits⟩

namespace Expr

/-- An evaluation in a run that is inside of no node fails for the budget, or gives the
result and ends in the state of the context of an evaluation on its own. -/
theorem evaluateIn_eq_evaluate (expr : Expr) (context : Context σ) (limits : Limits)
    {run : RunState σ} (resting : run.Resting) :
    (∃ budget position,
      (expr.evaluateIn context limits run).1 = .error ⟨.budgetExceeded budget, position⟩) ∨
    ((expr.evaluateIn context limits run).1, (expr.evaluateIn context limits run).2.context) =
      expr.evaluate context limits run.context := by
  have ahead : run.Ahead (.start run.context) := ⟨resting.depth, rfl, Nat.zero_le _⟩
  rcases (Limits.pace_correspondence context limits).eval expr (fun _ _ => trivial) run _ ahead
    with spent | ⟨result, ended⟩
  · exact .inl spent
  · exact .inr (Prod.ext result ended.context)

/-- A run stays usable whatever has happened in it. Take any trees that were evaluated
one after another from the start, each with a result or an error, and one more. The
depth is zero before it and after it. No node is left at depth zero, if the tree has
no more nodes than can be counted, as every tree in memory has. The count of nodes
goes up by the attempts to enter a node, up to its greatest value, and never down.
Unless the budget is exceeded, the evaluation comes to what it comes to on its own, so
the limit of the depth holds of each evaluation by itself. And once the budget has been
exceeded, every later evaluation, whatever lies between, exceeds the same budget at its
root and makes no request to the context. -/
theorem run_stays_usable (context : Context σ) (limits : Limits) (state : σ)
    (earlier : List Expr) (expr : Expr) :
    let machine := context.machine limits
    let run := context.runAfter limits (.start state) earlier
    let result := (expr.evaluateIn context limits run).1
    let after := (expr.evaluateIn context limits run).2
    (run.counters.depth = 0 ∧ after.counters.depth = 0) ∧
    (expr.nodes.length ≤ Counters.greatest →
      ∀ met ∈ machine.exits expr run, met.counters.depth ≠ 0) ∧
    (after.counters.nodes =
        min (run.counters.nodes + (machine.visits expr run).length) Counters.greatest ∧
      run.counters.nodes ≤ after.counters.nodes) ∧
    ((∃ budget position, result = .error ⟨.budgetExceeded budget, position⟩) ∨
      (result, after.context) = expr.evaluate context limits run.context) ∧
    ∀ budget position, result = .error ⟨.budgetExceeded budget, position⟩ →
      ∀ (between : List Expr) (next : Expr),
        let later := context.runAfter limits after between
        (next.evaluateIn context limits later).1 =
            .error ⟨.budgetExceeded budget, some next.position⟩ ∧
          machine.calls next later = [] := by
  intro machine run result after
  have resting : run.Resting := (RunState.Resting.start state).runAfter context limits earlier
  obtain ⟨rests, counted⟩ := resting.evaluateIn context limits expr
  refine ⟨⟨resting.depth, rests.depth⟩, ?_, ⟨counted, ?_⟩, ?_, ?_⟩
  · intro room
    exact resting.exits_positive context limits room
  · have within := resting.nodes
    rw [counted]
    omega
  · exact expr.evaluateIn_eq_evaluate context limits resting
  · intro budget position failed between next later
    have exhausted : limits.Exhausted budget after := .ofFailure failed
    have spent : limits.Exhausted budget later := exhausted.runAfter rests context between
    exact spent.refuses (rests.runAfter context limits between) context next

/-- After a constant was evaluated, a budget of four nodes does not suffice for two
writes. The second is refused, and so is whatever is evaluated afterwards. -/
theorem run_stays_usable_writeTwice :
    let limits : Limits := ⟨some 3, some 4⟩
    let machine := Slots.context.machine limits
    let run := Slots.context.runAfter limits (.start .empty) [Build.constant (.integer 0) ⟨9, 1⟩]
    let after := (writeTwice.evaluateIn Slots.context limits run).2
    let later := Slots.context.runAfter limits after [writeTwice, writeTwice]
    (writeTwice.evaluateIn Slots.context limits run).1 =
        .error ⟨.budgetExceeded 4, some ⟨2, 1⟩⟩ ∧
      after.counters.depth = 0 ∧ after.counters.nodes = min (1 + 4) Counters.greatest ∧
      (machine.exits writeTwice run).length = 3 ∧
      (∀ met ∈ machine.exits writeTwice run, met.counters.depth ≠ 0) ∧
      (writeTwice.evaluateIn Slots.context limits later).1 =
        .error ⟨.budgetExceeded 4, some ⟨1, 1⟩⟩ ∧
      machine.calls writeTwice later = [] := by
  intro limits machine run after later
  have failed : (writeTwice.evaluateIn Slots.context limits run).1 =
      .error ⟨.budgetExceeded 4, some ⟨2, 1⟩⟩ := rfl
  have nodes : writeTwice.nodes.length ≤ Counters.greatest := by
    have counted : writeTwice.nodes.length = 5 := rfl
    rw [counted]
    decide
  obtain ⟨⟨_, depth⟩, positive, ⟨counted, _⟩, _, refused⟩ :=
    run_stays_usable Slots.context limits .empty [Build.constant (.integer 0) ⟨9, 1⟩] writeTwice
  have left : (machine.exits writeTwice run).length = 3 := rfl
  refine ⟨failed, depth, counted, left, positive nodes, ?_⟩
  exact refused 4 _ failed [writeTwice, writeTwice] writeTwice

end Expr

end RuleTree
