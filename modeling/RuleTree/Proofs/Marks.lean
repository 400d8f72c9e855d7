import RuleTree.Expr.Build
import RuleTree.Proofs.Laziness

/-!
# Marks

A node is marked with the position at which it was written and, where the rule names what
it reads or writes, with that name as its label. Marks are there for whoever reads an
error. Trees that differ in their marks alone make the same requests, count the same nodes
and come to the same result; if they fail, they fail for the same reason, and the two
positions are those of one node, as it is marked in the one tree and in the other.

A label is a string, and so is the name in a key. Only the key addresses anything.
-/

namespace RuleTree

/-- What a tag says apart from the position. -/
def Tag.unmarked (tag : Tag) : Tag := { tag with position := ⟨0, 0⟩ }

namespace Expr

mutual
/-- The tree without its marks: every node has one position, and every label is empty. -/
def unmarked : Expr → Expr
  | .constant tag value => .constant tag.unmarked value
  | .slot tag _ key => .slot tag.unmarked "" key
  | .entry tag _ key source => .entry tag.unmarked "" key (unmarked source)
  | .setSlot tag _ key value => .setSlot tag.unmarked "" key (unmarked value)
  | .setEntry tag _ key value target =>
    .setEntry tag.unmarked "" key (unmarked value) (unmarked target)
  | .compare tag comparison left right =>
    .compare tag.unmarked comparison (unmarked left) (unmarked right)
  | .both tag left right => .both tag.unmarked (unmarked left) (unmarked right)
  | .either tag left right => .either tag.unmarked (unmarked left) (unmarked right)
  | .negation tag operand => .negation tag.unmarked (unmarked operand)
  | .branch tag check consequent alternative =>
    .branch tag.unmarked (unmarked check) (unmarked consequent) (unmarkedOptional alternative)
  | .loop tag list body stop key =>
    .loop tag.unmarked (unmarked list) (unmarked body) (unmarkedOptional stop) key
  | .search tag kind key collection fallback =>
    .search tag.unmarked kind (unmarked key) (unmarked collection) (unmarkedOptional fallback)
  | .sequence tag parts => .sequence tag.unmarked (unmarkedAll parts)

/-- A tree that may be missing, without its marks. -/
def unmarkedOptional : Option Expr → Option Expr
  | none => none
  | some expr => some (unmarked expr)

/-- Several trees, each without its marks. -/
def unmarkedAll : List Expr → List Expr
  | [] => []
  | first :: rest => unmarked first :: unmarkedAll rest
end

/-- The root keeps its type. -/
theorem tag_unmarked (expr : Expr) : expr.unmarked.tag = expr.tag.unmarked := by
  cases expr <;> rfl

/-- The root keeps its operator. -/
theorem operator_unmarked (expr : Expr) : expr.unmarked.operator = expr.operator := by
  cases expr <;> rfl

/-- The children lose their marks one by one. -/
theorem children_unmarked (expr : Expr) :
    expr.unmarked.children = expr.children.map unmarked := by
  have altogether (parts : List Expr) : unmarkedAll parts = parts.map unmarked := by
    induction parts with
    | nil => rfl
    | cons first rest others => rw [unmarkedAll, others, List.map_cons]
  cases expr with
  | branch tag check consequent alternative => cases alternative <;> rfl
  | loop tag list body stop key => cases stop <;> rfl
  | search tag kind key collection fallback => cases fallback <;> rfl
  | sequence tag parts => exact altogether parts
  | _ => rfl

variable {first second : Expr}

/-- Trees that are the same without their marks have one type. -/
theorem type_of_unmarked (same : first.unmarked = second.unmarked) : second.type = first.type := by
  have tags : first.tag.unmarked = second.tag.unmarked := by
    rw [← tag_unmarked, ← tag_unmarked, same]
  exact (congrArg Tag.type tags).symm

/-- Trees that are the same without their marks have one operator. -/
theorem operator_of_unmarked (same : first.unmarked = second.unmarked) :
    second.operator = first.operator := by
  rw [← operator_unmarked, ← same, operator_unmarked]

/-- Trees that are the same without their marks have as many children, which are the same
without their marks one by one. -/
theorem children_of_unmarked (same : first.unmarked = second.unmarked) :
    first.children.map unmarked = second.children.map unmarked := by
  rw [← children_unmarked, same, children_unmarked]

end Expr

variable {ρ ρ' α : Type}

/-- Two outcomes are the same but for the marks of two trees: both are one result, or both
fail for one reason, each at the position of the node that stands at one place in the two
trees. -/
inductive SameButMarks (first second : Expr) :
    Except EvalError α → Except EvalError α → Prop
  | result (result : α) : SameButMarks first second (.ok result) (.ok result)
  | failure (failure : Failure) (place : List Nat) (node node' : Expr)
      (found : first.subtree? place = some node) (found' : second.subtree? place = some node') :
      SameButMarks first second (.error ⟨failure, some node.position⟩)
        (.error ⟨failure, some node'.position⟩)

namespace SameButMarks

variable {first second : Expr}

/-- The roots have failed themselves. -/
theorem root (failure : Failure) : SameButMarks first second
    (.error ⟨failure, some first.position⟩ : Except EvalError α)
    (.error ⟨failure, some second.position⟩) :=
  .failure failure [] first second rfl rfl

/-- What is the same for children under one index is the same for the trees. -/
theorem ofChild {index : Nat} {part part' : Expr}
    (isChild : first.children[index]? = some part) (isChild' : second.children[index]? = some part')
    {outcome outcome' : Except EvalError α} (same : SameButMarks part part' outcome outcome') :
    SameButMarks first second outcome outcome' := by
  cases same with
  | result result => exact .result result
  | failure failure place node node' found found' =>
    refine .failure failure (index :: place) node node' ?_ ?_
    · simpa only [Expr.subtree?, isChild, Option.bind_some] using found
    · simpa only [Expr.subtree?, isChild', Option.bind_some] using found'

end SameButMarks

/-- From states that match, the actions have outcomes that are the same but for the marks
of two trees, and come to states that match. -/
def AlikeButMarks (Match : ρ → ρ' → Prop) (first second : Expr) (action : Action ρ α)
    (action' : Action ρ' α) : Prop :=
  ∀ state state', Match state state' →
    SameButMarks first second (action state).1 (action' state').1 ∧
      Match (action state).2 (action' state').2

namespace AlikeButMarks

variable {Match : ρ → ρ' → Prop} {first second : Expr}

/-- Requests that are answered alike, made by the roots themselves. -/
theorem ofRequest {request : ρ → Except ContextError α × ρ}
    {request' : ρ' → Except ContextError α × ρ'}
    (answered : ∀ state state', Match state state' →
      Alike Match (request state) (request' state')) :
    AlikeButMarks Match first second (Action.ofRequest first.position request)
      (Action.ofRequest second.position request') := by
  intro state state' matched
  have alike := answered state state' matched
  rcases answer : request state with ⟨outcome, after⟩
  rw [answer] at alike
  obtain ⟨after', answer', reached⟩ := alike.exists_eq
  cases outcome with
  | error error =>
    simp only [Action.ofRequest, answer, answer']
    exact ⟨.root _, reached⟩
  | ok result =>
    simp only [Action.ofRequest, answer, answer']
    exact ⟨.result result, reached⟩

/-- Sequences are alike if their parts are. -/
theorem sequence {β : Type} {before : Action ρ α} {before' : Action ρ' α} {next : α → Action ρ β}
    {next' : α → Action ρ' β} (alike : AlikeButMarks Match first second before before')
    (later : ∀ result, AlikeButMarks Match first second (next result) (next' result)) :
    AlikeButMarks Match first second (before >>= next) (before' >>= next') := by
  intro state state' matched
  obtain ⟨same, reached⟩ := alike state state' matched
  rcases ran : before state with ⟨outcome, after⟩
  rcases ran' : before' state' with ⟨outcome', after'⟩
  rw [ran, ran'] at same reached
  cases same with
  | result result =>
    rw [Action.run_bind_ok ran, Action.run_bind_ok ran']
    exact later result after after' reached
  | failure failure place node node' found found' =>
    rw [Action.run_bind_error ran, Action.run_bind_error ran']
    exact ⟨.failure failure place node node' found found', reached⟩

end AlikeButMarks

namespace Indifferent

variable {machine : Machine ρ} {other : Machine ρ'} {Match : ρ → ρ' → Prop} {first second : Expr}

/-- What the operators of two roots do themselves is alike, each at its own position. -/
theorem pairedLaws (indifferent : Indifferent machine other Match) (operator : Operator)
    (sameType : second.type = first.type) :
    PairedLaws machine other first.tag second.tag operator
      fun _ => AlikeButMarks Match first second where
  sameType := sameType
  result result _ _ matched := ⟨.result result, matched⟩
  refusal _ _ _ matched := ⟨.root _, matched⟩
  sequence := AlikeButMarks.sequence
  read key _ := by
    have tags : second.tag.type = first.tag.type := sameType
    rw [Machine.readAt, Machine.readAt, tags]
    exact AlikeButMarks.ofRequest (indifferent.reads key first.tag.type)
  write key _ value := AlikeButMarks.ofRequest (indifferent.writes key value)

/-- Nodes are alike if their bodies are. A node that is refused has failed itself. -/
theorem node_alikeButMarks (indifferent : Indifferent machine other Match)
    {body : Action ρ Value} {body' : Action ρ' Value}
    (bodies : AlikeButMarks Match first second body body') :
    AlikeButMarks Match first second (machine.node first body) (other.node second body') := by
  intro state state' matched
  have alike := indifferent.enters first second state state' matched
  rcases attempt : machine.enter first state with ⟨failure | _, entered⟩
  · rw [attempt] at alike
    obtain ⟨entered', attempt', reached⟩ := alike.exists_eq
    rw [Machine.node_refused attempt, Machine.node_refused attempt']
    exact ⟨.root failure, reached⟩
  · rw [attempt] at alike
    obtain ⟨entered', attempt', reached⟩ := alike.exists_eq
    obtain ⟨same, ended⟩ := bodies entered entered' reached
    rw [Machine.node_entered attempt, Machine.node_entered attempt']
    exact ⟨same, indifferent.leaves _ _ ended⟩

/-- Machines that do not look at the nodes evaluate trees alike that differ in their marks
alone.

Proof: by induction on the first tree. The second has the same operator and type at its
root, and children that correspond index by index. What a root does itself fails at its own
position, and what its children do is alike by induction, with the index in front of the
place. -/
theorem eval_alikeButMarks (indifferent : Indifferent machine other Match) :
    ∀ first second : Expr, first.unmarked = second.unmarked →
      AlikeButMarks Match first second (machine.eval first) (other.eval second) := by
  intro first
  induction first using Expr.induction_children with
  | node first inductionHypothesis =>
    intro second same
    have lengths : first.children.length = second.children.length := by
      simpa only [List.length_map] using
        congrArg List.length (Expr.children_of_unmarked same)
    have children : List.Forall₂ (AlikeButMarks Match first second)
        (first.children.map machine.eval) (second.children.map other.eval) := by
      rw [List.forall₂_map_left_iff, List.forall₂_map_right_iff, List.forall₂_iff_get]
      refine ⟨lengths, fun index inside inside' state state' matched => ?_⟩
      simp only [List.get_eq_getElem]
      have unmarked : first.children[index].unmarked = second.children[index].unmarked := by
        have there := congrArg (·[index]?) (Expr.children_of_unmarked same)
        simpa [inside, inside'] using there
      obtain ⟨outcomes, reached⟩ := inductionHypothesis _ (List.getElem_mem inside) _ unmarked
        state state' matched
      exact ⟨outcomes.ofChild (List.getElem?_eq_getElem inside)
        (List.getElem?_eq_getElem inside'), reached⟩
    rw [machine.eval_eq, other.eval_eq, Expr.operator_of_unmarked same]
    apply indifferent.node_alikeButMarks
    exact (indifferent.pairedLaws first.operator (Expr.type_of_unmarked same)).perform children

end Indifferent

namespace Expr

variable {σ : Type}

/-- Positions and labels do not influence an evaluation. Two trees that are the same without
their marks, evaluated under any limits, against any context and from any run, have the same
result, or fail for the same reason, each at the position of one node as it is marked in
that tree. The runs end in one state, counters included, and have made the same requests
with the same arguments. -/
theorem marks_irrelevant {first second : Expr} (same : first.unmarked = second.unmarked)
    (context : Context σ) (limits : Limits) (run : RunState σ) :
    SameButMarks first second (first.evaluateIn context limits run).1
        (second.evaluateIn context limits run).1 ∧
      (first.evaluateIn context limits run).2 = (second.evaluateIn context limits run).2 ∧
      (context.machine limits).calls first run = (context.machine limits).calls second run := by
  let machine := context.machine limits
  obtain ⟨outcomes, states, calls⟩ := (context.recording_indifferent limits).eval_alikeButMarks
    first second same (.start run) (.start run) ⟨rfl, rfl⟩
  obtain ⟨result, state⟩ := machine.recording_eval first (.start run)
  obtain ⟨result', state'⟩ := machine.recording_eval second (.start run)
  refine ⟨?_, ?_, calls⟩
  · rw [result, result'] at outcomes
    exact outcomes
  · exact state.symm.trans (states.trans state')

/-- A read and a write under an index, marked with a label and the number of a line. -/
def readAndWrite (label : String) (line : Nat) : Expr :=
  .sequence ⟨⟨line, 1⟩, .integer⟩
    [Build.slot label (.named "x") .integer ⟨line, 3⟩,
      Build.setSlot label (.indexed 0) (Build.constant (.integer 1) ⟨line, 12⟩) ⟨line, 6⟩]

/-- The plain context refuses the write. The same tree with another label and in another line
makes the same requests and fails for the same reason, in its own line. -/
theorem marks_irrelevant_readAndWrite :
    let first := readAndWrite "x" 1
    let second := readAndWrite "y" 2
    let outcome := first.evaluateIn Slots.context .none (.start .empty)
    let outcome' := second.evaluateIn Slots.context .none (.start .empty)
    let failure := Failure.context (.unsupportedKey (.indexed 0))
    first.unmarked = second.unmarked ∧ first ≠ second ∧
      outcome.1 = .error ⟨failure, some ⟨1, 6⟩⟩ ∧ outcome'.1 = .error ⟨failure, some ⟨2, 6⟩⟩ ∧
      SameButMarks first second outcome.1 outcome'.1 ∧ outcome.2 = outcome'.2 ∧
      (Slots.context.machine .none).calls first (.start .empty) =
        (Slots.context.machine .none).calls second (.start .empty) := by
  intro first second outcome outcome' failure
  have same : first.unmarked = second.unmarked := rfl
  have differ : first ≠ second := by
    intro equal
    have lines := congrArg Expr.position equal
    cases lines
  exact ⟨same, differ, rfl, rfl, marks_irrelevant same Slots.context .none (.start .empty)⟩

end Expr

end RuleTree
