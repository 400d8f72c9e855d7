import RuleTree.Proofs.Lockstep

/-!
# Records of evaluations

A machine can be watched: the machine that records does what the machine does
and keeps a list of the attempts to enter a node and a list of the requests to
the context, both in the order in which they were made. How deep a node is
nested is counted here by what has been entered and not yet left, apart from any
counter the machine itself may keep.

An evaluation that is recorded is the evaluation itself. What is recorded is
never taken back, and a node that was entered and failed has decided the result
of the whole.
-/

namespace RuleTree

/-- An attempt to enter a node: the node, how deep it is nested, which is one for
the root, and the state of the machine before the attempt. -/
structure Visit (ρ : Type) where
  node : Expr
  nesting : Nat
  state : ρ

/-- A request to the context. -/
inductive Call
  | read (key : Key) (type : Signature)
  | write (key : Key) (value : Value)

/-- The state of a machine, the number of nodes it is inside of, and what has been
recorded of it. -/
structure Recorded (ρ : Type) where
  state : ρ
  nesting : Nat
  visits : List (Visit ρ)
  calls : List Call

namespace Recorded

variable {ρ : Type}

/-- A record with nothing in it. -/
def start (state : ρ) : Recorded ρ := ⟨state, 0, [], []⟩

/-- The attempt to enter a node next. -/
def visit (recorded : Recorded ρ) (node : Expr) : Visit ρ :=
  ⟨node, recorded.nesting + 1, recorded.state⟩

/-- The record after a node was entered. -/
def inside (recorded : Recorded ρ) (node : Expr) (state : ρ) : Recorded ρ :=
  { recorded with
    state
    nesting := recorded.nesting + 1
    visits := recorded.visits ++ [recorded.visit node] }

/-- One attempt more has been recorded once a node was entered. -/
theorem length_inside (recorded : Recorded ρ) (node : Expr) (state : ρ) :
    (recorded.inside node state).visits.length = recorded.visits.length + 1 :=
  List.length_append

/-- The record after a node refused to be entered. -/
def outside (recorded : Recorded ρ) (node : Expr) (state : ρ) : Recorded ρ :=
  { recorded with state, visits := recorded.visits ++ [recorded.visit node] }

end Recorded

namespace Machine

variable {ρ : Type}

/-- The machine that does what a machine does and records it. An attempt is
recorded also where it is refused. -/
def recording (machine : Machine ρ) : Machine (Recorded ρ) where
  enter node recorded :=
    match machine.enter node recorded.state with
    | (.ok (), state) => (.ok (), recorded.inside node state)
    | (.error failure, state) => (.error failure, recorded.outside node state)
  leave recorded :=
    { recorded with state := machine.leave recorded.state, nesting := recorded.nesting - 1 }
  read key type recorded :=
    match machine.read key type recorded.state with
    | (result, state) =>
      (result, { recorded with state, calls := recorded.calls ++ [.read key type] })
  write key value recorded :=
    match machine.write key value recorded.state with
    | (result, state) =>
      (result, { recorded with state, calls := recorded.calls ++ [.write key value] })

/-- What is recorded of the evaluation of a tree from a state. -/
def record (machine : Machine ρ) (expr : Expr) (state : ρ) : Recorded ρ :=
  (machine.recording.eval expr (.start state)).2

/-- The attempts to enter a node, in order. -/
def visits (machine : Machine ρ) (expr : Expr) (state : ρ) : List (Visit ρ) :=
  (machine.record expr state).visits

/-- The requests to the context, in order. -/
def calls (machine : Machine ρ) (expr : Expr) (state : ρ) : List Call :=
  (machine.record expr state).calls

variable {machine : Machine ρ}

/-- Who may enter is recorded as inside. -/
theorem recording_enter_ok {node : Expr} {recorded : Recorded ρ} {entered : ρ}
    (entering : machine.enter node recorded.state = (.ok (), entered)) :
    machine.recording.enter node recorded = (.ok (), recorded.inside node entered) := by
  simp only [recording, entering]

/-- Who may not enter is recorded, but not as inside. -/
theorem recording_enter_error {node : Expr} {recorded : Recorded ρ} {refused : ρ}
    {failure : Failure}
    (entering : machine.enter node recorded.state = (.error failure, refused)) :
    machine.recording.enter node recorded = (.error failure, recorded.outside node refused) := by
  simp only [recording, entering]

/-- An attempt is recorded, whether the node is entered or not. -/
theorem recording_enter_visits (machine : Machine ρ) (node : Expr) (recorded : Recorded ρ) :
    (machine.recording.enter node recorded).2.visits =
      recorded.visits ++ [recorded.visit node] := by
  rcases entering : machine.enter node recorded.state with ⟨failure | _, after⟩
  · rw [recording_enter_error entering]
    rfl
  · rw [recording_enter_ok entering]
    rfl

/-- Who is recorded as inside has entered. -/
theorem enter_of_recording {node : Expr} {recorded inside : Recorded ρ}
    (entering : machine.recording.enter node recorded = (.ok (), inside)) :
    ∃ entered, machine.enter node recorded.state = (.ok (), entered) ∧
      inside = recorded.inside node entered := by
  rcases attempt : machine.enter node recorded.state with ⟨failure | _, entered⟩
  · rw [recording_enter_error attempt] at entering
    cases entering
  · rw [recording_enter_ok attempt] at entering
    exact ⟨entered, rfl, (congrArg Prod.snd entering).symm⟩

/-- Who is recorded as refused was refused for the same reason. -/
theorem refusal_of_recording {node : Expr} {recorded outside : Recorded ρ} {failure : Failure}
    (entering : machine.recording.enter node recorded = (.error failure, outside)) :
    ∃ refused, machine.enter node recorded.state = (.error failure, refused) ∧
      outside = recorded.outside node refused := by
  rcases attempt : machine.enter node recorded.state with ⟨other | _, refused⟩
  · rw [recording_enter_error attempt] at entering
    cases entering
    exact ⟨refused, rfl, rfl⟩
  · rw [recording_enter_ok attempt] at entering
    cases entering

/-- A read that is recorded. -/
theorem recording_readAt (tag : Tag) (key : Key) (recorded : Recorded ρ) :
    machine.recording.readAt tag key recorded =
      ((machine.readAt tag key recorded.state).1,
        { recorded with
          state := (machine.readAt tag key recorded.state).2
          calls := recorded.calls ++ [.read key tag.type] }) := by
  rcases answer : machine.read key tag.type recorded.state with ⟨_ | _, _⟩ <;>
    simp only [readAt, Action.ofRequest, recording, answer]

/-- A write that is recorded. -/
theorem recording_writeAt (tag : Tag) (key : Key) (value : Value) (recorded : Recorded ρ) :
    machine.recording.writeAt tag key value recorded =
      ((machine.writeAt tag key value recorded.state).1,
        { recorded with
          state := (machine.writeAt tag key value recorded.state).2
          calls := recorded.calls ++ [.write key value] }) := by
  rcases answer : machine.write key value recorded.state with ⟨_ | _, _⟩ <;>
    simp only [writeAt, Action.ofRequest, recording, answer]

end Machine

/-- A record that has only been added to, in which everything that was entered has
been left again. -/
structure Recorded.Extends {ρ : Type} (later earlier : Recorded ρ) : Prop where
  visits : earlier.visits <+: later.visits
  calls : earlier.calls <+: later.calls
  nesting : later.nesting = earlier.nesting

/-- A record extends itself. -/
theorem Recorded.Extends.refl {ρ : Type} (recorded : Recorded ρ) : recorded.Extends recorded :=
  ⟨List.prefix_rfl, List.prefix_rfl, rfl⟩

/-- Records are extended step by step. -/
theorem Recorded.Extends.trans {ρ : Type} {last middle first : Recorded ρ}
    (later : last.Extends middle) (earlier : middle.Extends first) : last.Extends first :=
  ⟨earlier.visits.trans later.visits, earlier.calls.trans later.calls,
    later.nesting.trans earlier.nesting⟩

/-- A sequence only adds to a record if its parts do. -/
theorem Action.bind_extends {ρ α β : Type} {first : Action (Recorded ρ) α}
    {next : α → Action (Recorded ρ) β} (before : ∀ recorded, (first recorded).2.Extends recorded)
    (later : ∀ result recorded, (next result recorded).2.Extends recorded)
    (recorded : Recorded ρ) : ((first >>= next) recorded).2.Extends recorded := by
  have reached := before recorded
  rcases ran : first recorded with ⟨error | result, middle⟩
  · rw [ran] at reached
    rw [Action.run_bind_error ran]
    exact reached
  · rw [ran] at reached
    rw [Action.run_bind_ok ran]
    exact (later result middle).trans reached

namespace Machine

variable {ρ : Type}

/-- A machine and the machine that records it run in lockstep. -/
theorem recording_lockstep (machine : Machine ρ) :
    Lockstep machine.recording machine (fun _ => True) fun recorded state =>
      recorded.state = state where
  enters node _ recorded state same := by
    subst same
    rcases entering : machine.enter node recorded.state with ⟨failure | _, after⟩
    · rw [recording_enter_error entering]
      exact ⟨rfl, rfl⟩
    · rw [recording_enter_ok entering]
      exact ⟨rfl, rfl⟩
  leaves _ _ same := congrArg machine.leave same
  reads _ _ _ _ _ _ same := by
    subst same
    exact ⟨rfl, rfl⟩
  writes _ _ _ _ _ _ _ same := by
    subst same
    exact ⟨rfl, rfl⟩

/-- An evaluation that is recorded gives the result of the evaluation, and ends in
its state. -/
theorem recording_eval (machine : Machine ρ) (expr : Expr) (recorded : Recorded ρ) :
    (machine.recording.eval expr recorded).1 = (machine.eval expr recorded.state).1 ∧
      (machine.recording.eval expr recorded).2.state = (machine.eval expr recorded.state).2 :=
  machine.recording_lockstep.eval expr (fun _ _ => trivial) rfl

/-- The evaluation that was recorded, from the one that records. -/
theorem eval_of_recording {machine : Machine ρ} {expr : Expr} {recorded after : Recorded ρ}
    {outcome : Except EvalError Value}
    (ran : machine.recording.eval expr recorded = (outcome, after)) :
    machine.eval expr recorded.state = (outcome, after.state) := by
  obtain ⟨sameResult, sameState⟩ := machine.recording_eval expr recorded
  rw [ran] at sameResult sameState
  exact Prod.ext sameResult.symm sameState.symm

/-- A read is added to a record. -/
theorem readAt_extends (machine : Machine ρ) (tag : Tag) (key : Key) (recorded : Recorded ρ) :
    (machine.recording.readAt tag key recorded).2.Extends recorded := by
  rw [recording_readAt]
  exact ⟨List.prefix_rfl, List.prefix_append _ _, rfl⟩

/-- A write is added to a record. -/
theorem writeAt_extends (machine : Machine ρ) (tag : Tag) (key : Key) (value : Value)
    (recorded : Recorded ρ) :
    (machine.recording.writeAt tag key value recorded).2.Extends recorded := by
  rw [recording_writeAt]
  exact ⟨List.prefix_rfl, List.prefix_append _ _, rfl⟩

/-- The attempt to enter a node is added to a record, and after it what its body adds. -/
theorem node_visits (machine : Machine ρ) (expr : Expr) {body : Action (Recorded ρ) Value}
    (bodies : ∀ recorded, (body recorded).2.Extends recorded) (recorded : Recorded ρ) :
    recorded.visits ++ [recorded.visit expr] <+:
      (machine.recording.node expr body recorded).2.visits := by
  rcases entering : machine.enter expr recorded.state with ⟨failure | _, after⟩
  · rw [node_refused (recording_enter_error entering)]
    exact List.prefix_rfl
  · rw [node_entered (recording_enter_ok entering)]
    exact (bodies (recorded.inside expr after)).visits

/-- A node is added to a record. If it was entered it has been left again. -/
theorem node_extends (machine : Machine ρ) (expr : Expr) {body : Action (Recorded ρ) Value}
    (bodies : ∀ recorded, (body recorded).2.Extends recorded) (recorded : Recorded ρ) :
    (machine.recording.node expr body recorded).2.Extends recorded := by
  have visited := (List.prefix_append _ _).trans (machine.node_visits expr bodies recorded)
  rcases entering : machine.enter expr recorded.state with ⟨failure | _, after⟩
  · rw [node_refused (recording_enter_error entering)] at visited ⊢
    exact ⟨visited, List.prefix_rfl, rfl⟩
  · have reached := bodies (recorded.inside expr after)
    rw [node_entered (recording_enter_ok entering)] at visited ⊢
    exact ⟨visited, reached.calls, Nat.sub_eq_of_eq_add reached.nesting⟩

/-- Nothing that an evaluation is made of takes anything back from a record. -/
theorem extension_correspondence (machine : Machine ρ) :
    Correspondence machine.recording machine.recording (fun _ => True)
      fun _ watched _ => ∀ recorded, (watched recorded).2.Extends recorded where
  result _ recorded := .refl recorded
  refusal _ _ recorded := .refl recorded
  sequence := Action.bind_extends
  slot tag _ key _ := machine.readAt_extends tag key
  setSlot tag _ key _ _ value := machine.writeAt_extends tag key value
  loop tag _ _ _ key _ item := machine.writeAt_extends tag key item
  node expr _ _ _ _ _ bodies := machine.node_extends expr bodies

/-- An evaluation only adds to a record, and leaves every node that it entered. -/
theorem recording_extends (machine : Machine ρ) (expr : Expr) (recorded : Recorded ρ) :
    (machine.recording.eval expr recorded).2.Extends recorded :=
  machine.extension_correspondence.eval expr (fun _ _ => trivial) recorded

/-- An evaluation first records the attempt to enter the tree. -/
theorem recording_root (machine : Machine ρ) (expr : Expr) (recorded : Recorded ρ) :
    recorded.visits ++ [recorded.visit expr] <+:
      (machine.recording.eval expr recorded).2.visits := by
  rw [machine.recording.eval_eq]
  apply machine.node_visits
  intro entered
  have children : List.Forall₂ (fun part _ : Action (Recorded ρ) Value =>
      (∀ node ∈ expr.nodes, True) → ∀ recorded, (part recorded).2.Extends recorded)
      (expr.children.map machine.recording.eval) (expr.children.map machine.recording.eval) := by
    rw [List.forall₂_map_left_iff, List.forall₂_map_right_iff, List.forall₂_same]
    exact fun part _ _ => machine.recording_extends part
  exact (machine.extension_correspondence.nodewise.stepLaws expr).perform children
    (fun _ _ => trivial) entered

/-- What was recorded before an evaluation is there after it. -/
theorem mem_visits_of_recording {machine : Machine ρ} {expr : Expr} {recorded after : Recorded ρ}
    {outcome : Except EvalError Value}
    (ran : machine.recording.eval expr recorded = (outcome, after)) {visit : Visit ρ}
    (visited : visit ∈ recorded.visits) : visit ∈ after.visits := by
  have added := (machine.recording_extends expr recorded).visits
  rw [ran] at added
  exact added.subset visited

/-- Where an evaluation has come to a node whose own evaluation fails, it has failed
with the same error: nothing catches an error, and nothing is evaluated after it. -/
theorem stop_correspondence (machine : Machine ρ) :
    Correspondence machine.recording machine.recording (fun _ => True) fun _ watched _ =>
      ∀ recorded, ∃ attempts, (watched recorded).2.visits = recorded.visits ++ attempts ∧
        ∀ visit ∈ attempts, ∀ error, (machine.eval visit.node visit.state).1 = .error error →
          (watched recorded).1 = .error error where
  result _ recorded := ⟨[], (List.append_nil _).symm, fun _ impossible => nomatch impossible⟩
  refusal _ _ recorded := ⟨[], (List.append_nil _).symm, fun _ impossible => nomatch impossible⟩
  sequence {_ _ first _ next _} before later := by
    intro recorded
    obtain ⟨attempts, added, stopped⟩ := before recorded
    rcases ran : first recorded with ⟨error | result, middle⟩
    · rw [ran] at added stopped
      rw [Action.run_bind_error ran]
      refine ⟨attempts, added, fun visit member failure failed => ?_⟩
      have same : error = failure := by simpa using stopped visit member failure failed
      rw [same]
    · rw [ran] at added stopped
      rw [Action.run_bind_ok ran]
      obtain ⟨further, addedLater, stoppedLater⟩ := later result middle
      refine ⟨attempts ++ further, ?_, fun visit member failure failed => ?_⟩
      · rw [addedLater, added, List.append_assoc]
      · rcases List.mem_append.mp member with early | late
        · cases stopped visit early failure failed
        · exact stoppedLater visit late failure failed
  slot tag label key _ recorded := by
    rw [recording_readAt]
    exact ⟨[], (List.append_nil _).symm, fun _ impossible => nomatch impossible⟩
  setSlot tag label key value _ result recorded := by
    rw [recording_writeAt]
    exact ⟨[], (List.append_nil _).symm, fun _ impossible => nomatch impossible⟩
  loop tag list body stop key _ item recorded := by
    rw [recording_writeAt]
    exact ⟨[], (List.append_nil _).symm, fun _ impossible => nomatch impossible⟩
  node expr body _ _ evaluates _ bodies := by
    intro recorded
    -- The node itself is evaluated by this very action, its descendants by its body.
    have itself : (machine.recording.node expr body recorded).1 =
        (machine.eval expr recorded.state).1 := by
      rw [← evaluates]
      exact (machine.recording_eval expr recorded).1
    rcases entering : machine.enter expr recorded.state with ⟨failure | _, after⟩
    · refine ⟨[recorded.visit expr], ?_, fun visit member error failed => ?_⟩
      · rw [node_refused (recording_enter_error entering)]
        rfl
      · obtain rfl := List.mem_singleton.mp member
        exact itself.trans failed
    · obtain ⟨attempts, added, stopped⟩ := bodies (recorded.inside expr after)
      have ran : machine.recording.node expr body recorded =
          ((body (recorded.inside expr after)).1,
            machine.recording.leave (body (recorded.inside expr after)).2) :=
        node_entered (recording_enter_ok entering)
      refine ⟨recorded.visit expr :: attempts, ?_, fun visit member error failed => ?_⟩
      · rw [ran]
        exact added.trans (List.append_assoc _ _ _)
      · rcases List.mem_cons.mp member with rfl | inner
        · exact itself.trans failed
        · rw [ran]
          exact stopped visit inner error failed

/-- An evaluation that has come to a node whose own evaluation fails has failed with
the same error. -/
theorem eval_error_of_visit {machine : Machine ρ} {expr : Expr} {state : ρ} {visit : Visit ρ}
    {error : EvalError} (visited : visit ∈ machine.visits expr state)
    (failed : (machine.eval visit.node visit.state).1 = .error error) :
    (machine.eval expr state).1 = .error error := by
  obtain ⟨attempts, added, stopped⟩ :=
    machine.stop_correspondence.eval expr (fun _ _ => trivial) (.start state)
  have among : visit ∈ attempts := by
    rw [visits, record, added] at visited
    exact visited
  have same : (machine.recording.eval expr (.start state)).1 = (machine.eval expr state).1 :=
    (machine.recording_eval expr (.start state)).1
  exact same.symm.trans (stopped visit among error failed)

end Machine

end RuleTree
