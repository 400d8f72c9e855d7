import RuleTree.Expr.Build
import RuleTree.Proofs.Journal
import RuleTree.Proofs.LimitedEvaluation

/-!
# Where an evaluation stops

An evaluation stops at its first failure, and what it reports is that failure and
no other. If the context refuses a request, this is the last request it has to
answer, and its error is reported as it gave it, at the position of the node that
made the request. Whatever the failure is, its position is that of the node whose
own step failed: everything that was entered within this node has come out well.

Both are proved node by node, for the steps of a node and for whole trees at once.
What a node does itself fails at the position of the node, and an error of a child
passes through the steps of its parents as it is.

Nothing is asked of the context: it may be in any state, fail whenever it likes and
give values of any type.
-/

namespace RuleTree

variable {ρ σ α β : Type}

/-! ## Refused requests -/

/-- No request was refused. -/
def Answered (requests : List Request) : Prop := ∀ request ∈ requests, request.refusal = none

/-- How requests bear on what an evaluation fails with, if it fails: none was refused,
and then it does not fail for the context; or the last was refused and no other, and
then it fails for that very reason, at the position of the node that asked. -/
def Verbatim (requests : List Request) (failed : Option EvalError) : Prop :=
  (Answered requests ∧ ∀ error position, failed ≠ some ⟨.context error, position⟩) ∨
  ∃ earlier last caller error, requests = earlier ++ [last] ∧ Answered earlier ∧
    last.caller = some caller ∧ last.refusal = some error ∧
    failed = some ⟨.context error, some caller.position⟩

namespace Verbatim

variable {requests : List Request} {failed : Option EvalError}

/-- Where there is no request and no failure of the context there is nothing to say. -/
theorem quiet (own : ∀ error position, failed ≠ some ⟨.context error, position⟩) :
    Verbatim [] failed :=
  .inl ⟨fun _ impossible => absurd impossible List.not_mem_nil, own⟩

/-- If an evaluation does not fail, no request was refused. -/
theorem answered (verbatim : Verbatim requests none) : Answered requests := by
  rcases verbatim with ⟨answered, _⟩ | ⟨_, _, _, _, _, _, _, _, impossible⟩
  · exact answered
  · cases impossible

/-- Requests that were answered may have been made before. -/
theorem after (later : Verbatim requests failed) {before : List Request}
    (answered : Answered before) : Verbatim (before ++ requests) failed := by
  rcases later with ⟨answeredLater, own⟩ | refused
  · exact .inl ⟨List.forall_mem_append.mpr ⟨answered, answeredLater⟩, own⟩
  · obtain ⟨earlier, last, caller, error, rfl, answeredEarlier, rest⟩ := refused
    refine .inr ⟨before ++ earlier, last, caller, error, (List.append_assoc _ _ _).symm, ?_, rest⟩
    exact List.forall_mem_append.mpr ⟨answered, answeredEarlier⟩

/-- A request that was refused is the last, and its error is what the evaluation fails
with. -/
theorem stops (verbatim : Verbatim requests failed) {index : Nat} {request : Request}
    {error : ContextError} (reached : requests[index]? = some request)
    (refused : request.refusal = some error) :
    index + 1 = requests.length ∧ ∃ caller, request.caller = some caller ∧
      failed = some ⟨.context error, some caller.position⟩ := by
  rcases verbatim with ⟨answered, _⟩ | ⟨earlier, last, caller, reason, rfl, answered, rest⟩
  · cases (answered request (List.mem_of_getElem? reached)).symm.trans refused
  · obtain ⟨called, reported, same⟩ := rest
    rw [List.length_append, List.length_singleton]
    -- Those before the last were answered, so it can only be the last itself.
    rcases Nat.lt_or_ge index earlier.length with early | late
    · rw [List.getElem?_append_left early] at reached
      cases (answered request (List.mem_of_getElem? reached)).symm.trans refused
    · rw [List.getElem?_append_right late, List.getElem?_singleton] at reached
      split at reached
      · next here =>
        cases reached
        cases reported.symm.trans refused
        exact ⟨by omega, caller, called, same⟩
      · cases reached

/-- A failure of the context is the refusal of the last request. -/
theorem refused (verbatim : Verbatim requests failed) {error : ContextError}
    {position : Option Position} (same : failed = some ⟨.context error, position⟩) :
    ∃ request, requests.getLast? = some request ∧ request.refusal = some error := by
  rcases verbatim with ⟨_, own⟩ | ⟨earlier, last, caller, reason, rfl, _, _, reported, other⟩
  · exact absurd same (own error position)
  · cases other.symm.trans same
    exact ⟨last, List.getLast?_concat, reported⟩

end Verbatim

/-- A request was made by a node of a tree, and is one that this node makes. -/
def Request.MadeIn (request : Request) (root : Expr) : Prop :=
  ∃ caller ∈ root.nodes, request.caller = some caller ∧ caller.Makes request.call

/-- What requests say that were made within a tree: nodes of the tree have made them, and
they bear on what the evaluation fails with as they should. -/
structure Accounted (within : Expr) (requests : List Request) (failed : Option EvalError) :
    Prop where
  made : ∀ request ∈ requests, request.MadeIn within
  verbatim : Verbatim requests failed

namespace Accounted

variable {within : Expr} {requests : List Request} {failed : Option EvalError}

/-- Where there is no request. -/
theorem quiet (own : ∀ error position, failed ≠ some ⟨.context error, position⟩) :
    Accounted within [] failed where
  made _ impossible := absurd impossible List.not_mem_nil
  verbatim := .quiet own

/-- Requests that were answered, and those that follow them. -/
theorem append {earlier later : List Request} (before : Accounted within earlier none)
    (after : Accounted within later failed) : Accounted within (earlier ++ later) failed where
  made := List.forall_mem_append.mpr ⟨before.made, after.made⟩
  verbatim := after.verbatim.after before.verbatim.answered

/-- What was requested within a child was requested within the tree. -/
theorem widen {owner : Expr} (below : within ∈ owner.children)
    (accounted : Accounted within requests failed) : Accounted owner requests failed where
  made request member := by
    obtain ⟨caller, inside, rest⟩ := accounted.made request member
    exact ⟨caller, Expr.nodes_subset_of_mem_children below inside, rest⟩
  verbatim := accounted.verbatim

end Accounted

/-- What is added to a journal by steps within a tree. Whatever was entered was left. -/
def Journal.Continues (within : Expr) (journal : Journal ρ)
    (outcome : Except EvalError α × Journal ρ) : Prop :=
  Action.Adds Journal.requests Journal.inside (Accounted within) journal outcome

/-- A request that the node makes at whose position it is made. -/
theorem Journal.Continues.ofRequest {within : Expr} {journal : Journal ρ} (call : Call)
    {request : Journal ρ → Except ContextError α × Journal ρ}
    {answer : Except ContextError α} {state : ρ} (caller : journal.inside.head? = some within)
    (makes : within.Makes call)
    (asked : request journal = (answer, journal.asked call (refusal? answer) state)) :
    journal.Continues within (Action.ofRequest within.position request journal) := by
  have made : Request.MadeIn ⟨journal.inside.head?, call, refusal? answer⟩ within :=
    ⟨within, within.mem_nodes_self, caller, makes⟩
  unfold Action.ofRequest
  rw [asked]
  cases answer with
  | ok result =>
    refine ⟨rfl, _, rfl, List.forall_mem_singleton.mpr made, .inl ⟨?_, fun _ _ => nofun⟩⟩
    exact List.forall_mem_singleton.mpr rfl
  | error error =>
    refine ⟨rfl, _, rfl, List.forall_mem_singleton.mpr made, .inr ?_⟩
    exact ⟨[], _, within, error, rfl, fun _ impossible => absurd impossible List.not_mem_nil,
      caller, rfl, rfl⟩

/-- What is kept of a journal by steps of a node that is the innermost, and by whole
trees, on a machine that refuses no node for the context.

Proof: a node makes its requests while it is the innermost. Its children are entered
and left again before it goes on. -/
theorem Machine.journal_nodewise {machine : Machine ρ}
    (refuses : ∀ node state failure after, machine.enter node state = (.error failure, after) →
      ∀ error, failure ≠ .context error) :
    Nodewise machine.journaling machine.journaling
      (fun owner _ action _ => ∀ journal : Journal ρ, journal.inside.head? = some owner →
        journal.Continues owner (action journal))
      (fun expr action _ => ∀ journal : Journal ρ, journal.Continues expr (action journal)) where
  result _ _ _ _ _ := .nothing (.quiet fun _ _ => nofun) rfl rfl
  refusal _ _ _ _ _ := .nothing (.quiet fun _ _ => nofun) rfl rfl
  sequence _ _ _ _ _ _ _ before later journal innermost := by
    refine .sequence (fun _ _ _ => Accounted.append) (before journal innermost) ?_
    exact fun result after inside => later result after (inside ▸ innermost)
  read owner key reads journal innermost :=
    .ofRequest (.read key owner.type) innermost ⟨reads, rfl⟩ rfl
  write owner key writes value journal innermost :=
    .ofRequest (.write key value) innermost writes rfl
  child below trees journal _ := (trees journal).mono fun _ => Accounted.widen below
  node expr body _ _ _ bodies journal := by
    rcases entering : machine.enter expr journal.state with ⟨failure | _, after⟩
    · rw [node_refused (journaling_enter_error entering)]
      -- Nothing was requested, and what the node fails with is not of the context.
      refine .nothing (.quiet fun error position same => ?_) rfl rfl
      have failed : failure = .context error := by
        simpa [refusal?] using congrArg (Option.map EvalError.failure) same
      exact refuses expr journal.state failure after entering error failed
    · obtain ⟨inside, added⟩ := bodies (journal.entered expr after) rfl
      rw [node_entered (journaling_enter_ok entering)]
      exact ⟨congrArg List.tail inside, added⟩

/-! ## The node that failed -/

namespace Machine

variable {machine : Machine ρ}

/-- An attempt to enter a node came out well: the evaluation of the node has a result. -/
def Succeeds (machine : Machine ρ) (visit : Visit ρ) : Prop :=
  ∃ value, (machine.eval visit.node visit.state).1 = .ok value

/-- The attempt at which an evaluation has failed. The evaluation of its node fails with
the error, and whatever was attempted after it was nested within it and came out
well: the error is that of its own step. -/
structure FailsAt (machine : Machine ρ) (attempts : List (Visit ρ)) (visit : Visit ρ)
    (error : EvalError) : Prop where
  fails : (machine.eval visit.node visit.state).1 = .error error
  reached : ∃ before inner, attempts = before ++ visit :: inner ∧
    ∀ later ∈ inner, visit.nesting < later.nesting ∧ machine.Succeeds later

/-- Where an evaluation has failed does not depend on what was attempted before. -/
theorem FailsAt.after {attempts : List (Visit ρ)} {visit : Visit ρ} {error : EvalError}
    (failsAt : machine.FailsAt attempts visit error) (before : List (Visit ρ)) :
    machine.FailsAt (before ++ attempts) visit error := by
  obtain ⟨fails, earlier, inner, rfl, nested⟩ := failsAt
  exact ⟨fails, before ++ earlier, inner, (List.append_assoc _ _ _).symm, nested⟩

/-- The attempt at which an evaluation has failed is one of its attempts. -/
theorem FailsAt.mem {attempts : List (Visit ρ)} {visit : Visit ρ} {error : EvalError}
    (failsAt : machine.FailsAt attempts visit error) : visit ∈ attempts := by
  obtain ⟨_, before, inner, rfl, _⟩ := failsAt
  exact List.mem_append_right before List.mem_cons_self

/-- Who has failed is not among those that came out well. -/
theorem not_mem_of_succeeds {attempts : List (Visit ρ)} {visit : Visit ρ} {error : EvalError}
    (fails : (machine.eval visit.node visit.state).1 = .error error)
    (succeed : ∀ other ∈ attempts, machine.Succeeds other) : visit ∉ attempts := by
  intro member
  obtain ⟨value, succeeded⟩ := succeed visit member
  cases succeeded.symm.trans fails

/-- There is one attempt at which an evaluation has failed.

Proof: of two, one would be the later, and come out well. -/
theorem FailsAt.unique {attempts : List (Visit ρ)} {visit other : Visit ρ}
    {error reason : EvalError} (failsAt : machine.FailsAt attempts visit error)
    (failsOther : machine.FailsAt attempts other reason) : visit = other := by
  obtain ⟨fails, before, inner, split, nested⟩ := failsAt
  obtain ⟨failsToo, before', inner', split', nested'⟩ := failsOther
  have apart : visit ∉ inner' :=
    not_mem_of_succeeds fails fun later member => (nested' later member).2
  have apart' : other ∉ inner :=
    not_mem_of_succeeds failsToo fun later member => (nested later member).2
  rcases List.append_eq_append_iff.mp (split.symm.trans split') with
    ⟨between, _, joined⟩ | ⟨between, _, joined⟩
  · rcases List.cons_eq_append_iff.mp joined with ⟨_, same⟩ | ⟨rest, _, same⟩
    · exact (List.cons.inj same).1.symm
    · exact absurd (same ▸ List.mem_append_right rest List.mem_cons_self) apart'
  · rcases List.cons_eq_append_iff.mp joined with ⟨_, same⟩ | ⟨rest, _, same⟩
    · exact (List.cons.inj same).1
    · exact absurd (same ▸ List.mem_append_right rest List.mem_cons_self) apart

/-- What the attempts of an evaluation say of its failure, if it has failed. Either all
have come out well, and the error is one that the steps between them may fail with; or
one of them has failed, and the error has the position of its node. -/
def Blames (machine : Machine ρ) (Own : EvalError → Prop) (attempts : List (Visit ρ))
    (failed : Option EvalError) : Prop :=
  ((∀ visit ∈ attempts, machine.Succeeds visit) ∧ ∀ error, failed = some error → Own error) ∨
  ∃ error visit, failed = some error ∧ machine.FailsAt attempts visit error ∧
    error.position = some visit.node.position

namespace Blames

variable {Own : EvalError → Prop} {attempts : List (Visit ρ)} {failed : Option EvalError}

/-- If an evaluation has not failed, all attempts have come out well. -/
theorem succeeds (blames : machine.Blames Own attempts none) :
    ∀ visit ∈ attempts, machine.Succeeds visit := by
  rcases blames with ⟨succeeds, _⟩ | ⟨_, _, impossible, _⟩
  · exact succeeds
  · cases impossible

/-- Attempts that have come out well, or contain the one that failed, may have been made
before. -/
theorem after (blames : machine.Blames Own attempts failed) {before : List (Visit ρ)}
    (succeeds : ∀ visit ∈ before, machine.Succeeds visit) :
    machine.Blames Own (before ++ attempts) failed := by
  rcases blames with ⟨succeedsLater, own⟩ | ⟨error, visit, same, failsAt, placed⟩
  · exact .inl ⟨List.forall_mem_append.mpr ⟨succeeds, succeedsLater⟩, own⟩
  · exact .inr ⟨error, visit, same, failsAt.after before, placed⟩

/-- The steps between the attempts may be allowed to fail with more. -/
theorem mono {Own' : EvalError → Prop} (blames : machine.Blames Own attempts failed)
    (weaker : ∀ error, Own error → Own' error) : machine.Blames Own' attempts failed := by
  rcases blames with ⟨succeeds, own⟩ | blamed
  · exact .inl ⟨succeeds, fun error same => weaker error (own error same)⟩
  · exact .inr blamed

/-- The attempt to enter a node, and what was attempted within it. If all of this has
come out well and the node fails, the node has failed itself. -/
theorem enclose {visit : Visit ρ} {outcome : Except EvalError Value}
    (blames : machine.Blames (fun error => error.position = some visit.node.position) attempts
      (refusal? outcome))
    (itself : (machine.eval visit.node visit.state).1 = outcome)
    (deeper : ∀ later ∈ attempts, visit.nesting < later.nesting) :
    machine.Blames (fun _ => False) (visit :: attempts) (refusal? outcome) := by
  rcases blames with ⟨succeeds, own⟩ | ⟨error, failing, same, failsAt, placed⟩
  · cases outcome with
    | ok value =>
      exact .inl ⟨List.forall_mem_cons.mpr ⟨⟨value, itself⟩, succeeds⟩, fun _ => nofun⟩
    | error error =>
      refine .inr ⟨error, visit, rfl, ⟨itself, [], attempts, rfl, ?_⟩, own error rfl⟩
      exact fun later member => ⟨deeper later member, succeeds later member⟩
  · exact .inr ⟨error, failing, same, failsAt.after [visit], placed⟩

end Blames

end Machine

/-- A request that fails does so at the position it is made at. -/
theorem Action.position_of_ofRequest {position : Position}
    {request : ρ → Except ContextError α × ρ} {state : ρ} {error : EvalError}
    (failed : refusal? (Action.ofRequest position request state).1 = some error) :
    error.position = some position := by
  unfold Action.ofRequest at failed
  split at failed
  · cases failed
  · cases failed
    rfl

/-- What attempts say that were made by the steps of a node: they are nested deeper than
the node, and show what has failed. -/
structure Machine.Traced (machine : Machine ρ) (nesting : Nat) (Own : EvalError → Prop)
    (attempts : List (Visit ρ)) (failed : Option EvalError) : Prop where
  deeper : ∀ visit ∈ attempts, nesting < visit.nesting
  blames : machine.Blames Own attempts failed

namespace Machine.Traced

variable {machine : Machine ρ} {nesting : Nat} {Own : EvalError → Prop}
  {failed : Option EvalError}

/-- Where nothing was attempted. -/
theorem quiet (own : ∀ error, failed = some error → Own error) :
    machine.Traced nesting Own [] failed where
  deeper _ impossible := absurd impossible List.not_mem_nil
  blames := .inl ⟨fun _ impossible => absurd impossible List.not_mem_nil, own⟩

/-- Attempts that came out well, and those that follow them. -/
theorem append {earlier later : List (Visit ρ)} (before : machine.Traced nesting Own earlier none)
    (after : machine.Traced nesting Own later failed) :
    machine.Traced nesting Own (earlier ++ later) failed where
  deeper := List.forall_mem_append.mpr ⟨before.deeper, after.deeper⟩
  blames := after.blames.after before.blames.succeeds

end Machine.Traced

/-- What is added to a record by the steps of a node. Whatever was entered was left. -/
def Recorded.Traces (machine : Machine ρ) (Own : EvalError → Prop) (recorded : Recorded ρ)
    (outcome : Except EvalError α × Recorded ρ) : Prop :=
  Action.Adds Recorded.visits Recorded.nesting (machine.Traced recorded.nesting Own) recorded
    outcome

/-- The steps of a node fail at its own position or because a node within has failed;
a tree that fails has a node that has failed.

Proof: a node that is refused has failed itself. One that was entered fails as its
body does: if everything in the body has come out well it was the node's own step,
and otherwise the node within that failed is the one. -/
theorem Machine.record_nodewise (machine : Machine ρ) :
    Nodewise machine.recording machine.recording
      (fun owner _ action _ => ∀ recorded : Recorded ρ,
        recorded.Traces machine (fun error => error.position = some owner.position)
          (action recorded))
      (fun _ action _ => ∀ recorded : Recorded ρ,
        recorded.Traces machine (fun _ => False) (action recorded)) where
  result _ _ _ _ := .nothing (.quiet fun _ impossible => nomatch impossible) rfl rfl
  refusal _ _ _ _ := .nothing (.quiet fun _ same => by cases same; rfl) rfl rfl
  sequence owner _ _ _ _ next _ before later recorded := by
    refine .sequence (fun _ _ _ => Traced.append) (before recorded) fun result middle same => ?_
    have traces : middle.Traces machine _ (next result middle) := later result middle
    rw [Recorded.Traces, same] at traces
    exact traces
  read _ _ _ recorded := by
    rw [recording_readAt]
    exact .nothing (.quiet fun _ failed => Action.position_of_ofRequest failed) rfl rfl
  write _ _ _ _ recorded := by
    rw [recording_writeAt]
    exact .nothing (.quiet fun _ failed => Action.position_of_ofRequest failed) rfl rfl
  child _ trees recorded := by
    refine (trees recorded).mono fun attempts traced => ⟨traced.deeper, ?_⟩
    exact traced.blames.mono fun _ impossible => impossible.elim
  node expr body _ evaluates _ bodies recorded := by
    -- The node itself is evaluated by this very action, its descendants by its body.
    have itself : (machine.recording.node expr body recorded).1 =
        (machine.eval expr recorded.state).1 := by
      rw [← evaluates]
      exact (machine.recording_eval expr recorded).1
    rcases entering : machine.enter expr recorded.state with ⟨failure | _, after⟩
    · rw [node_refused (recording_enter_error entering)] at itself ⊢
      refine ⟨rfl, [recorded.visit expr], rfl, ?_, ?_⟩
      · exact List.forall_mem_singleton.mpr (Nat.lt_succ_self _)
      · have alone : machine.Traced (recorded.visit expr).nesting
            (fun error => error.position = some expr.position) []
            (some ⟨failure, some expr.position⟩) := .quiet fun _ same => by cases same; rfl
        exact alone.blames.enclose itself.symm alone.deeper
    · obtain ⟨nesting, attempts, visits, deeper, blames⟩ := bodies (recorded.inside expr after)
      rw [node_entered (recording_enter_ok entering)] at itself ⊢
      refine ⟨Nat.sub_eq_of_eq_add nesting, recorded.visit expr :: attempts, ?_, ?_, ?_⟩
      · exact visits.trans (List.append_assoc _ _ _)
      · refine List.forall_mem_cons.mpr ⟨Nat.lt_succ_self _, fun visit member => ?_⟩
        exact Nat.lt_of_succ_lt (deeper visit member)
      · exact blames.enclose itself.symm deeper

/-- Only nodes of a tree are attempted to be entered. -/
theorem Machine.node_mem_of_visit {machine : Machine ρ} {expr : Expr} {state : ρ}
    {visit : Visit ρ} (visited : visit ∈ machine.visits expr state) : visit.node ∈ expr.nodes := by
  have preserves : machine.recording.Preserves (· ∈ expr.nodes)
      fun recorded => ∀ visit ∈ recorded.visits, visit.node ∈ expr.nodes := by
    refine ⟨?_, fun _ held => held, fun _ _ _ _ _ held => held, fun _ _ _ _ _ _ held => held⟩
    intro node here recorded held
    rw [recording_enter_visits]
    exact List.forall_mem_append.mpr ⟨held, List.forall_mem_singleton.mpr here⟩
  have none : ∀ visit ∈ (Recorded.start state).visits, visit.node ∈ expr.nodes :=
    fun _ impossible => absurd impossible List.not_mem_nil
  exact preserves.eval expr (fun _ member => member) none visit visited

/-! ## Evaluations against a context -/

/-- A limit that is crossed is no failure of the context. -/
theorem Limits.Crossed.not_context {limits : Limits} {number nesting : Nat} {failure : Failure}
    (crossed : limits.Crossed number nesting failure) (error : ContextError) :
    failure ≠ .context error := by
  cases crossed with
  | budget => exact nofun
  | depth => exact nofun

/-- A run refuses a node for a limit that is crossed. -/
theorem Context.crossed_of_refused {context : Context σ} {limits : Limits} {node : Expr}
    {run after : RunState σ} {failure : Failure}
    (refused : (context.machine limits).enter node run = (.error failure, after)) :
    limits.Crossed (Counters.next run.counters.nodes) (Counters.next run.counters.depth)
      failure := by
  rcases run.counters.enter_cases limits with ⟨other, crossed, entering⟩ | ⟨_, entering⟩
  · rw [context.machine_enter entering] at refused
    cases refused
    exact crossed
  · rw [context.machine_enter entering] at refused
    cases refused

namespace Expr

/-- The requests of an evaluation account for how it fails. -/
theorem requests_accounted (expr : Expr) (context : Context σ) (limits : Limits)
    (run : RunState σ) :
    Accounted expr ((context.machine limits).requests expr run)
      (refusal? (expr.evaluateIn context limits run).1) := by
  have nodewise : Nodewise (context.machine limits).journaling (context.machine limits).journaling
      _ _ :=
    Machine.journal_nodewise fun _ _ _ _ refused error =>
      (context.crossed_of_refused refused).not_context error
  obtain ⟨_, added, requests, accounted⟩ := nodewise.eval expr (.start run)
  rw [((context.machine limits).journaling_eval expr (.start run)).1] at accounted
  have same : (context.machine limits).requests expr run = added := requests
  rw [same]
  exact accounted

/-- The attempts of an evaluation show where it has failed. -/
theorem visits_blame (expr : Expr) (machine : Machine ρ) (state : ρ) :
    machine.Blames (fun _ => False) (machine.visits expr state)
      (refusal? (machine.eval expr state).1) := by
  obtain ⟨_, attempts, visits, _, blames⟩ := machine.record_nodewise.eval expr (.start state)
  rw [(machine.recording_eval expr (.start state)).1] at blames
  have same : machine.visits expr state = attempts := visits
  rw [same]
  exact blames

/-- An evaluation stops at its first failure and reports it as it is, whatever the
context does and under any limits. A request that was refused is the last that was
made. It was made by a node of the tree, as one of its own, and the evaluation fails
with the error that the context gave, at the position of this node. A failure of the
context is reported in no other case. And whatever the failure is, there is one node
that has failed itself, while everything that was entered within it came out well;
the failure has the position of this node. -/
theorem evaluation_fail_stop (expr : Expr) (context : Context σ) (limits : Limits)
    (run : RunState σ) :
    let machine := context.machine limits
    let requests := machine.requests expr run
    let visits := machine.visits expr run
    let outcome := (expr.evaluateIn context limits run).1
    (∀ index request error, requests[index]? = some request → request.refusal = some error →
      index + 1 = requests.length ∧
      ∃ caller ∈ expr.nodes, request.caller = some caller ∧ caller.Makes request.call ∧
        outcome = .error ⟨.context error, some caller.position⟩) ∧
    (∀ error position, outcome = .error ⟨.context error, position⟩ →
      ∃ request, requests.getLast? = some request ∧ request.refusal = some error) ∧
    (∀ error, outcome = .error error →
      ∃ visit, machine.FailsAt visits visit error ∧
        (∀ other reason, machine.FailsAt visits other reason → other = visit) ∧
        visit.node ∈ expr.nodes ∧ error.position = some visit.node.position) := by
  intro machine requests visits outcome
  have accounted : Accounted expr requests (refusal? outcome) :=
    expr.requests_accounted context limits run
  refine ⟨?_, ?_, ?_⟩
  · intro index request error reached refused
    obtain ⟨last, caller, called, failed⟩ := accounted.verbatim.stops reached refused
    obtain ⟨maker, inside, called', makes⟩ := accounted.made request (List.mem_of_getElem? reached)
    cases called.symm.trans called'
    exact ⟨last, caller, inside, called, makes, refusal?_eq_some.mp failed⟩
  · intro error position failed
    exact accounted.verbatim.refused (refusal?_eq_some.mpr failed)
  · intro error failed
    have failed' : refusal? outcome = some error := refusal?_eq_some.mpr failed
    rcases expr.visits_blame machine run with
      ⟨_, impossible⟩ | ⟨other, visit, same, failsAt, placed⟩
    · exact (impossible error failed').elim
    · cases same.symm.trans failed'
      refine ⟨visit, failsAt, fun _ _ failsToo => failsToo.unique failsAt, ?_, placed⟩
      exact Machine.node_mem_of_visit failsAt.mem

/-- A loop whose body writes under an index, which the plain context refuses, and a
write that would follow. -/
def writeInLoop : Expr :=
  .sequence ⟨⟨1, 1⟩, .integer⟩
    [.loop ⟨⟨1, 1⟩, .integer⟩ (Build.constant (.list .integer [.integer 1, .integer 2]) ⟨1, 5⟩)
        (Build.setSlot "first" (.indexed 0) (Build.slot "i" (.named "i") .integer ⟨2, 9⟩) ⟨2, 3⟩)
        none (.named "i"),
      Build.setSlot "x" (.named "x") (Build.constant (.integer 3) ⟨3, 5⟩) ⟨3, 1⟩]

/-- The loop binds its first item and reads it back. The write is refused and is the
third request and the last. The error is that of the context, at the position of the
write, and the write is what has failed. -/
theorem evaluation_fail_stop_writeInLoop :
    let machine := Slots.context.machine .none
    let run := RunState.start Slots.empty
    let error : EvalError := ⟨.context (.unsupportedKey (.indexed 0)), some ⟨2, 3⟩⟩
    (machine.requests writeInLoop run).length = 3 ∧
      (writeInLoop.evaluateIn Slots.context .none run).1 = .error error ∧
      (∃ request, (machine.requests writeInLoop run).getLast? = some request ∧
        request.refusal = some (.unsupportedKey (.indexed 0))) ∧
      ∃ visit, machine.FailsAt (machine.visits writeInLoop run) visit error ∧
        visit.node ∈ writeInLoop.nodes ∧ visit.node.position = ⟨2, 3⟩ := by
  intro machine run error
  obtain ⟨stops, refused, fails⟩ := writeInLoop.evaluation_fail_stop Slots.context .none run
  have failed : (writeInLoop.evaluateIn Slots.context .none run).1 = .error error := rfl
  obtain ⟨last, _⟩ := stops 2 _ (.unsupportedKey (.indexed 0)) rfl rfl
  obtain ⟨visit, failsAt, _, inside, placed⟩ := fails error failed
  exact ⟨last.symm, failed, refused _ _ failed, visit, failsAt, inside,
    (Option.some.inj placed).symm⟩

end Expr

end RuleTree
