import Mathlib.Data.List.Forall2
import RuleTree.Proofs.Action
import RuleTree.Proofs.Tree

/-!
# The body of a node

What happens in the body of a node is made of three things: the operator, which says
what the node is apart from its children; the tag, which gives a position to what fails
and a type to what is absent; and what the children do. The evaluator takes all three
from the tree. Here the children are given as actions, so that a child may be evaluated
otherwise, or not by the evaluator at all, and what fails has its position from the
beginning.

A relation between actions that is respected by everything a node does itself is handed
on from the children to the node. A law that relates evaluations is a law of such steps,
and does not go through the operators again.
-/

namespace RuleTree

/-- What a node is apart from its tag, its label and its children. -/
inductive Operator
  | constant (value : Value)
  | slot (key : Key)
  | entry (key : Key)
  | setSlot (key : Key)
  | setEntry (key : Key)
  | compare (comparison : Comparison)
  | both
  | either
  | negation
  | branch
  | loop (key : Key)
  | search (kind : SearchKind)
  | sequence

/-- The operator of a node. -/
def Expr.operator : Expr → Operator
  | .constant _ value => .constant value
  | .slot _ _ key => .slot key
  | .entry _ _ key _ => .entry key
  | .setSlot _ _ key _ => .setSlot key
  | .setEntry _ _ key _ _ => .setEntry key
  | .compare _ comparison _ _ => .compare comparison
  | .both _ _ _ => .both
  | .either _ _ _ => .either
  | .negation _ _ => .negation
  | .branch _ _ _ _ => .branch
  | .loop _ _ _ _ key => .loop key
  | .search _ kind _ _ _ => .search kind
  | .sequence _ _ => .sequence

/-- The key of the slot that an operator reads. -/
def Operator.readKey? : Operator → Option Key
  | .slot key => some key
  | _ => none

/-- The key of the slot that an operator writes. -/
def Operator.writtenKey? : Operator → Option Key
  | .setSlot key | .loop key => some key
  | _ => none

/-- A node reads what its operator reads. -/
theorem Expr.readKey?_operator (expr : Expr) : expr.operator.readKey? = expr.readKey? := by
  cases expr <;> rfl

/-- A node writes what its operator writes. -/
theorem Expr.writtenKey?_operator (expr : Expr) :
    expr.operator.writtenKey? = expr.writtenKey? := by
  cases expr <;> rfl

variable {ρ ρ' : Type}

/-- Actions one after another. The result is that of the last, or `result` if there are
none. -/
def Action.inTurn (result : Value) : List (Action ρ Value) → Action ρ Value
  | [] => pure result
  | first :: rest => do
    let result ← first
    inTurn result rest

/-- What an operator does with a tag and with what the children do. An optional child
comes last and may be missing; other children are not, and nothing is said of nodes
without them. -/
def Machine.perform (machine : Machine ρ) (tag : Tag) :
    Operator → List (Action ρ Value) → Action ρ Value
  | .constant value, _ => pure value
  | .slot key, _ => machine.readAt tag key
  | .entry key, source :: _ => do
    let container ← source
    if container.isNil then pure (.nil tag.type)
    else .ofValue tag.position (container.reference key)
  | .setSlot key, value :: _ => do
    let result ← value
    machine.writeAt tag key result
    pure result
  | .setEntry key, value :: target :: _ => do
    let result ← value
    let container ← target
    if container.isNil then pure result
    else do
      Action.ofValue tag.position (container.assign key result)
      pure result
  | .compare comparison, left :: right :: _ => do
    let first ← left
    let second ← right
    .ofValue tag.position (Value.compared comparison first second)
  | .both, left :: right :: _ => do
    match ← Action.truth tag.position left with
    | none => pure (.nil .boolean)
    | some false => pure (.boolean false)
    | some true =>
      let truth ← Action.truth tag.position right
      pure (Action.ofTruth truth)
  | .either, left :: right :: _ => do
    match ← Action.truth tag.position left with
    | none => pure (.nil .boolean)
    | some true => pure (.boolean true)
    | some false =>
      let truth ← Action.truth tag.position right
      pure (Action.ofTruth truth)
  | .negation, operand :: _ => do
    let truth ← Action.truth tag.position operand
    pure (Action.ofTruth (truth.map (!·)))
  | .branch, check :: consequent :: alternative => do
    match ← Action.truth tag.position check with
    | none => pure (.nil tag.type)
    | some true => consequent
    | some false => alternative.headD (pure (.nil tag.type))
  | .loop key, list :: body :: stop => do
    let source ← list
    match ← Action.ofValue tag.position source.asItems with
    | none | some [] => pure (.nil tag.type)
    | some items =>
      let last ← stop.headD (pure (.nil tag.type))
      repeatBody (machine.writeAt tag key) body last (.nil tag.type) items
  | .search kind, key :: collection :: fallback => do
    let needle ← key
    if needle.isNil then pure (.nil tag.type)
    else do
      let source ← collection
      if source.isNil then pure (.nil tag.type)
      else do
        let found ← Action.ofValue tag.position (source.searchAll needle)
        match ← Action.ofValue tag.position (Value.searched kind source found) with
        | some result => pure result
        | none => fallback.headD (pure (.nil tag.type))
  | .sequence, parts => Action.inTurn (.nil tag.type) parts
  | _, _ => pure (.nil tag.type)

/-- An optional child is evaluated as the first of as many children as there are. -/
theorem Machine.evalOptional_eq (machine : Machine ρ) (tag : Tag) (optional : Option Expr) :
    machine.evalOptional tag optional =
      (optional.toList.map machine.eval).headD (pure (.nil tag.type)) := by
  cases optional <;> rfl

/-! ## Failures in a body -/

section Places

open RuleTree.Action (Places)

variable {machine : Machine ρ} {position : Position}

/-- A loop fails at the position if binding and its body do. -/
theorem Machine.repeatBody_places {bind bind' : Value → Action ρ Unit} {body body' : Action ρ Value}
    (binding : ∀ item, Places position (bind item) (bind' item))
    (running : Places position body body') (stop result : Value) (items : List Value) :
    Places position (repeatBody bind body stop result items)
      (repeatBody bind' body' stop result items) := by
  induction items generalizing result with
  | nil => exact .pure result
  | cons item rest inductionHypothesis =>
    rw [repeatBody_cons, repeatBody_cons]
    refine (binding item).bind fun _ => running.bind fun later => ?_
    split
    · exact .pure later
    · exact inductionHypothesis later

/-- What fails in an optional tree has a position. -/
theorem Machine.evalOptional_places (machine : Machine ρ) (position : Position) (tag : Tag)
    (optional : Option Expr) :
    Places position (machine.evalOptional tag optional)
      ((optional.toList.map machine.eval).headD (pure (.nil tag.type))) := by
  rw [← evalOptional_eq]
  cases optional with
  | none => exact .pure _
  | some expr => exact eval_places machine expr position

/-- Several trees are evaluated in turn, and what fails in them has a position. -/
theorem Machine.evalAll_places (machine : Machine ρ) (position : Position) (result : Value)
    (parts : List Expr) :
    Places position (machine.evalAll result parts)
      (Action.inTurn result (parts.map machine.eval)) := by
  induction parts generalizing result with
  | nil => exact .pure result
  | cons part rest inductionHypothesis =>
    rw [evalAll_cons]
    exact (eval_places machine part position).bind inductionHypothesis

end Places

/-- To evaluate a tree is to enter its node, to do what its operator does with the
evaluations of its children, and to leave the node again, where what fails has its position
from the beginning.

Proof: by cases on the tree. What fails in a child has a position already, so attaching the
position of the node reaches only what the operator does itself. -/
theorem Machine.eval_eq (machine : Machine ρ) (expr : Expr) :
    machine.eval expr =
      machine.node expr
        (machine.perform expr.tag expr.operator (expr.children.map machine.eval)) := by
  have child (expr : Expr) (position : Position) := eval_places machine expr position
  cases expr with
  | constant tag value => exact evalNode_eq (.pure value)
  | slot tag label key => exact evalNode_eq (.request _)
  | entry tag label key source =>
    refine evalNode_eq ((child source _).bind fun container => ?_)
    split
    · exact .pure _
    · exact .attempt _
  | setSlot tag label key value =>
    exact evalNode_eq ((child value _).bind fun result => .bind (.request _) fun _ => .pure result)
  | setEntry tag label key value target =>
    refine evalNode_eq ((child value _).bind fun result => ?_)
    refine (child target _).bind fun container => ?_
    split
    · exact .pure result
    · exact .bind (.attempt _) fun _ => .pure result
  | compare tag comparison left right =>
    refine evalNode_eq ((child left _).bind fun first => ?_)
    exact (child right _).bind fun second => .attempt _
  | both tag left right =>
    refine evalNode_eq (.bind (child left _).truthOf fun truth => ?_)
    rcases truth with _ | (_ | _)
    · exact .pure _
    · exact .pure _
    · exact .bind (child right _).truthOf fun truth => .pure _
  | either tag left right =>
    refine evalNode_eq (.bind (child left _).truthOf fun truth => ?_)
    rcases truth with _ | (_ | _)
    · exact .pure _
    · exact .bind (child right _).truthOf fun truth => .pure _
    · exact .pure _
  | negation tag operand =>
    exact evalNode_eq (.bind (child operand _).truthOf fun truth => .pure _)
  | branch tag check consequent alternative =>
    refine evalNode_eq (.bind (child check _).truthOf fun truth => ?_)
    rcases truth with _ | (_ | _)
    · exact .pure _
    · exact evalOptional_places machine _ tag alternative
    · exact child consequent _
  | loop tag list body stop key =>
    refine evalNode_eq ((child list _).bind fun source => .bind (.attempt _) fun items => ?_)
    rcases items with _ | (_ | ⟨item, rest⟩)
    · exact .pure _
    · exact .pure _
    · refine (evalOptional_places machine _ tag stop).bind fun last => ?_
      exact repeatBody_places (fun item => .request _) (child body _) last _ (item :: rest)
  | search tag kind key collection fallback =>
    refine evalNode_eq ((child key _).bind fun needle => ?_)
    split
    · exact .pure _
    refine (child collection _).bind fun source => ?_
    split
    · exact .pure _
    refine .bind (.attempt _) fun found => .bind (.attempt _) fun outcome => ?_
    cases outcome with
    | some result => exact .pure result
    | none => exact evalOptional_places machine _ tag fallback
  | sequence tag parts => exact evalNode_eq (evalAll_places machine _ _ parts)

/-! ## Relations that a node hands on -/

/-- A relation between the actions of two machines that is respected by everything an
operator does itself, on the second machine with a tag of its own. -/
structure PairedLaws (machine : Machine ρ) (other : Machine ρ') (tag tag' : Tag)
    (operator : Operator) (Related : (α : Type) → Action ρ α → Action ρ' α → Prop) : Prop where
  sameType : tag'.type = tag.type
  result : ∀ {α : Type} (result : α), Related α (pure result) (pure result)
  refusal : ∀ {α : Type} (error : ValueError),
    Related α (.ofValue tag.position (.error error)) (.ofValue tag'.position (.error error))
  sequence : ∀ {α β : Type} {first : Action ρ α} {first' : Action ρ' α}
    {next : α → Action ρ β} {next' : α → Action ρ' β}, Related α first first' →
    (∀ result, Related β (next result) (next' result)) →
    Related β (first >>= next) (first' >>= next')
  read : ∀ key, operator.readKey? = some key →
    Related Value (machine.readAt tag key) (other.readAt tag' key)
  write : ∀ key, operator.writtenKey? = some key → ∀ value,
    Related Unit (machine.writeAt tag key value) (other.writeAt tag' key value)

namespace PairedLaws

variable {machine : Machine ρ} {other : Machine ρ'} {tag tag' : Tag} {operator : Operator}
  {Related : (α : Type) → Action ρ α → Action ρ' α → Prop}

/-- Operations on values, whether they succeed or not. -/
theorem ofValue (laws : PairedLaws machine other tag tag' operator Related) {α : Type}
    (outcome : Except ValueError α) :
    Related α (.ofValue tag.position outcome) (.ofValue tag'.position outcome) := by
  cases outcome with
  | error error => exact laws.refusal error
  | ok result => exact laws.result result

/-- The truth values of operands. -/
theorem truth (laws : PairedLaws machine other tag tag' operator Related)
    {operand : Action ρ Value} {operand' : Action ρ' Value}
    (operands : Related Value operand operand') :
    Related (Option Bool) (Action.truth tag.position operand)
      (Action.truth tag'.position operand') :=
  laws.sequence operands fun value => laws.ofValue value.asBoolean

/-- The first of as many children as there are. -/
theorem headD (laws : PairedLaws machine other tag tag' operator Related)
    {parts : List (Action ρ Value)} {parts' : List (Action ρ' Value)}
    (related : List.Forall₂ (Related Value) parts parts') (absent : Value) :
    Related Value (parts.headD (pure absent)) (parts'.headD (pure absent)) := by
  cases related with
  | nil => exact laws.result absent
  | cons first _ => exact first

/-- Children one after another. -/
theorem inTurn (laws : PairedLaws machine other tag tag' operator Related)
    {parts : List (Action ρ Value)} {parts' : List (Action ρ' Value)}
    (related : List.Forall₂ (Related Value) parts parts') (result : Value) :
    Related Value (Action.inTurn result parts) (Action.inTurn result parts') := by
  induction related generalizing result with
  | nil => exact laws.result result
  | cons first _ inductionHypothesis => exact laws.sequence first inductionHypothesis

/-- Loops with one list of items, whose bodies are related. -/
theorem repeatBody (laws : PairedLaws machine other tag tag' operator Related) {key : Key}
    (written : operator.writtenKey? = some key) {body : Action ρ Value} {body' : Action ρ' Value}
    (bodies : Related Value body body') (stop result : Value) (items : List Value) :
    Related Value (Machine.repeatBody (machine.writeAt tag key) body stop result items)
      (Machine.repeatBody (other.writeAt tag' key) body' stop result items) := by
  induction items generalizing result with
  | nil => exact laws.result result
  | cons item rest inductionHypothesis =>
    rw [Machine.repeatBody_cons, Machine.repeatBody_cons]
    refine laws.sequence (laws.write key written item) fun _ =>
      laws.sequence bodies fun later => ?_
    split
    · exact laws.result later
    · exact inductionHypothesis later

/-- What an operator does is related if what the children do is.

Proof: by cases on the operator. Its body is a sequence of what the children do, of
operations on values and of requests, and the choices between them depend on results
alone. -/
theorem perform (laws : PairedLaws machine other tag tag' operator Related)
    {parts : List (Action ρ Value)} {parts' : List (Action ρ' Value)}
    (related : List.Forall₂ (Related Value) parts parts') :
    Related Value (machine.perform tag operator parts) (other.perform tag' operator parts') := by
  obtain ⟨position', type'⟩ := tag'
  obtain rfl : type' = tag.type := laws.sameType
  cases operator with
  | constant value => exact laws.result value
  | slot key => exact laws.read key rfl
  | entry key =>
    cases related with
    | nil => exact laws.result _
    | cons source _ =>
      refine laws.sequence source fun container => ?_
      split
      · exact laws.result _
      · exact laws.ofValue _
  | setSlot key =>
    cases related with
    | nil => exact laws.result _
    | cons value _ =>
      refine laws.sequence value fun result => ?_
      exact laws.sequence (laws.write key rfl result) fun _ => laws.result result
  | setEntry key =>
    rcases related with _ | ⟨value, _ | ⟨target, _⟩⟩
    · exact laws.result _
    · exact laws.result _
    · refine laws.sequence value fun result => laws.sequence target fun container => ?_
      split
      · exact laws.result result
      · exact laws.sequence (laws.ofValue _) fun _ => laws.result result
  | compare comparison =>
    rcases related with _ | ⟨left, _ | ⟨right, _⟩⟩
    · exact laws.result _
    · exact laws.result _
    · exact laws.sequence left fun first => laws.sequence right fun second => laws.ofValue _
  | both =>
    rcases related with _ | ⟨left, _ | ⟨right, _⟩⟩
    · exact laws.result _
    · exact laws.result _
    · refine laws.sequence (laws.truth left) fun truth => ?_
      rcases truth with _ | (_ | _)
      · exact laws.result _
      · exact laws.result _
      · exact laws.sequence (laws.truth right) fun _ => laws.result _
  | either =>
    rcases related with _ | ⟨left, _ | ⟨right, _⟩⟩
    · exact laws.result _
    · exact laws.result _
    · refine laws.sequence (laws.truth left) fun truth => ?_
      rcases truth with _ | (_ | _)
      · exact laws.result _
      · exact laws.sequence (laws.truth right) fun _ => laws.result _
      · exact laws.result _
  | negation =>
    cases related with
    | nil => exact laws.result _
    | cons operand _ => exact laws.sequence (laws.truth operand) fun _ => laws.result _
  | branch =>
    rcases related with _ | ⟨check, _ | ⟨consequent, alternative⟩⟩
    · exact laws.result _
    · exact laws.result _
    · refine laws.sequence (laws.truth check) fun truth => ?_
      rcases truth with _ | (_ | _)
      · exact laws.result _
      · exact laws.headD alternative _
      · exact consequent
  | loop key =>
    rcases related with _ | ⟨list, _ | ⟨body, stop⟩⟩
    · exact laws.result _
    · exact laws.result _
    · refine laws.sequence list fun source => laws.sequence (laws.ofValue _) fun items => ?_
      rcases items with _ | (_ | ⟨item, rest⟩)
      · exact laws.result _
      · exact laws.result _
      · refine laws.sequence (laws.headD stop _) fun last => ?_
        exact laws.repeatBody rfl body last _ (item :: rest)
  | search kind =>
    rcases related with _ | ⟨key, _ | ⟨collection, fallback⟩⟩
    · exact laws.result _
    · exact laws.result _
    · refine laws.sequence key fun needle => ?_
      split
      · exact laws.result _
      refine laws.sequence collection fun source => ?_
      split
      · exact laws.result _
      refine laws.sequence (laws.ofValue _) fun found =>
        laws.sequence (laws.ofValue _) fun outcome => ?_
      cases outcome with
      | some result => exact laws.result result
      | none => exact laws.headD fallback _
  | sequence => exact laws.inTurn related _

end PairedLaws

/-- A relation between the actions of two machines that is respected by everything an
operator does itself. -/
structure StepLaws (machine : Machine ρ) (other : Machine ρ') (tag : Tag)
    (operator : Operator) (Related : (α : Type) → Action ρ α → Action ρ' α → Prop) : Prop where
  result : ∀ {α : Type} (result : α), Related α (pure result) (pure result)
  refusal : ∀ {α : Type} (error : ValueError),
    Related α (.ofValue tag.position (.error error)) (.ofValue tag.position (.error error))
  sequence : ∀ {α β : Type} {first : Action ρ α} {first' : Action ρ' α}
    {next : α → Action ρ β} {next' : α → Action ρ' β}, Related α first first' →
    (∀ result, Related β (next result) (next' result)) →
    Related β (first >>= next) (first' >>= next')
  read : ∀ key, operator.readKey? = some key →
    Related Value (machine.readAt tag key) (other.readAt tag key)
  write : ∀ key, operator.writtenKey? = some key → ∀ value,
    Related Unit (machine.writeAt tag key value) (other.writeAt tag key value)

namespace StepLaws

variable {machine : Machine ρ} {other : Machine ρ'} {tag : Tag} {operator : Operator}
  {Related : (α : Type) → Action ρ α → Action ρ' α → Prop}

/-- Both machines may have one tag. -/
theorem paired (laws : StepLaws machine other tag operator Related) :
    PairedLaws machine other tag tag operator Related where
  sameType := rfl
  result := laws.result
  refusal := laws.refusal
  sequence := laws.sequence
  read := laws.read
  write := laws.write

/-- What an operator does with one tag is related if what the children do is. -/
theorem perform (laws : StepLaws machine other tag operator Related)
    {parts : List (Action ρ Value)} {parts' : List (Action ρ' Value)}
    (related : List.Forall₂ (Related Value) parts parts') :
    Related Value (machine.perform tag operator parts) (other.perform tag operator parts') :=
  laws.paired.perform related

end StepLaws

end RuleTree
