import RuleTree.Proofs.Lockstep

/-!
# Places in a tree

A place is given by the indices of the children on the way to it, from the root
downwards. What stands there is a subtree; it can be replaced, and it can be evaluated
in another way than the rest of the tree. Equal subtrees may stand at several places,
so a place says more than the subtree does.

Two evaluations of one tree that differ at a place only, in what stands there or in how
it is evaluated, are compared as actions. A relation that every node hands on from its
children holds of both as soon as it holds at the place.
-/

namespace RuleTree

namespace Expr

/-- The tree with its children put through a function, which is told the index of each. -/
def mapChildren (f : Nat → Expr → Expr) : Expr → Expr
  | .constant tag value => .constant tag value
  | .slot tag label key => .slot tag label key
  | .entry tag label key source => .entry tag label key (f 0 source)
  | .setSlot tag label key value => .setSlot tag label key (f 0 value)
  | .setEntry tag label key value target => .setEntry tag label key (f 0 value) (f 1 target)
  | .compare tag comparison left right => .compare tag comparison (f 0 left) (f 1 right)
  | .both tag left right => .both tag (f 0 left) (f 1 right)
  | .either tag left right => .either tag (f 0 left) (f 1 right)
  | .negation tag operand => .negation tag (f 0 operand)
  | .branch tag check consequent alternative =>
    .branch tag (f 0 check) (f 1 consequent) (alternative.map (f 2))
  | .loop tag list body stop key => .loop tag (f 0 list) (f 1 body) (stop.map (f 2)) key
  | .search tag kind key collection fallback =>
    .search tag kind (f 0 key) (f 1 collection) (fallback.map (f 2))
  | .sequence tag parts => .sequence tag (parts.mapIdx f)

/-- The subtree at a place. -/
def subtree? : List Nat → Expr → Option Expr
  | [], expr => some expr
  | index :: place, expr => expr.children[index]?.bind (subtree? place)

/-- The tree with another subtree at a place. It is the same tree if there is nothing at
the place. -/
def replace : List Nat → Expr → Expr → Expr
  | [], _, other => other
  | index :: place, expr, other =>
    expr.mapChildren fun here part => if here = index then replace place part other else part

variable (f : Nat → Expr → Expr) (expr : Expr)

/-- The node itself stays the same. -/
@[simp] theorem tag_mapChildren : (expr.mapChildren f).tag = expr.tag := by
  cases expr <;> rfl

/-- The node itself stays the same. -/
@[simp] theorem operator_mapChildren : (expr.mapChildren f).operator = expr.operator := by
  cases expr <;> rfl

/-- The children are put through the function. -/
@[simp] theorem children_mapChildren :
    (expr.mapChildren f).children = expr.children.mapIdx f := by
  cases expr with
  | branch tag check consequent alternative => cases alternative <;> rfl
  | loop tag list body stop key => cases stop <;> rfl
  | search tag kind key collection fallback => cases fallback <;> rfl
  | _ => rfl

end Expr

variable {ρ ρ' : Type}

/-- Evaluate a tree in which the subtree at a place is evaluated in a way of its own. -/
def Machine.evalWith (machine : Machine ρ) (inner : Expr → Action ρ Value) :
    List Nat → Expr → Action ρ Value
  | [], expr => inner expr
  | index :: place, expr =>
    machine.node expr <| machine.perform expr.tag expr.operator <|
      expr.children.mapIdx fun here part =>
        if here = index then machine.evalWith inner place part else machine.eval part

/-- The way of its own may be the evaluator's. -/
theorem Machine.evalWith_eval (machine : Machine ρ) (place : List Nat) (expr : Expr) :
    machine.evalWith machine.eval place expr = machine.eval expr := by
  induction place generalizing expr with
  | nil => rfl
  | cons index place inductionHypothesis =>
    have children : (expr.children.mapIdx fun here part =>
        if here = index then machine.evalWith machine.eval place part else machine.eval part) =
          expr.children.map machine.eval := by
      apply List.ext_getElem?
      intro here
      rw [List.getElem?_mapIdx, List.getElem?_map]
      simp only [inductionHypothesis, ite_self]
    rw [evalWith, children, ← machine.eval_eq]

/-- Below a place, a way of its own is one for the subtree at the place. -/
theorem Machine.evalWith_append (machine : Machine ρ) (inner : Expr → Action ρ Value)
    (place below : List Nat) (expr : Expr) :
    machine.evalWith inner (place ++ below) expr =
      machine.evalWith (machine.evalWith inner below) place expr := by
  induction place generalizing expr with
  | nil => rfl
  | cons index place inductionHypothesis =>
    simp only [List.cons_append, evalWith, inductionHypothesis]

/-! ## Relations that hold at a place -/

/-- A relation between the actions of two machines that nodes hand on from their
children. -/
structure Congruence (machine : Machine ρ) (other : Machine ρ')
    (Related : (α : Type) → Action ρ α → Action ρ' α → Prop) : Prop where
  steps : ∀ tag operator, StepLaws machine other tag operator Related
  node : ∀ expr {body : Action ρ Value} {body' : Action ρ' Value}, Related Value body body' →
    Related Value (machine.node expr body) (other.node expr body')

/-- A relation that nodes hand on from their children to each other, where it matters of a
node what it does but not which node it is. -/
structure BlindCongruence (machine : Machine ρ) (other : Machine ρ')
    (Related : (α : Type) → Action ρ α → Action ρ' α → Prop) : Prop where
  steps : ∀ tag operator, StepLaws machine other tag operator Related
  node : ∀ {expr expr' : Expr} {body : Action ρ Value} {body' : Action ρ' Value},
    expr'.tag = expr.tag → Related Value body body' →
    Related Value (machine.node expr body) (other.node expr' body')

/-- Lists made from one list are related item by item if what is made of each item is. -/
theorem forall₂_mapIdx {ι α β : Type} {Related : α → β → Prop} {items : List ι}
    {f : Nat → ι → α} {g : Nat → ι → β}
    (each : ∀ index item, items[index]? = some item → Related (f index item) (g index item)) :
    List.Forall₂ Related (items.mapIdx f) (items.mapIdx g) := by
  rw [List.forall₂_iff_get]
  refine ⟨by simp only [List.length_mapIdx], fun index inside _ => ?_⟩
  rw [List.length_mapIdx] at inside
  simp only [List.get_eq_getElem, List.getElem_mapIdx]
  exact each index items[index] (List.getElem?_eq_getElem inside)

namespace Congruence

variable {machine : Machine ρ} {other : Machine ρ'}
  {Related : (α : Type) → Action ρ α → Action ρ' α → Prop}

/-- Evaluations of one tree are related. -/
theorem eval (congruence : Congruence machine other Related) (expr : Expr) :
    Related Value (machine.eval expr) (other.eval expr) := by
  induction expr using Expr.induction_children with
  | node expr inductionHypothesis =>
    rw [machine.eval_eq, other.eval_eq]
    apply congruence.node
    apply (congruence.steps expr.tag expr.operator).perform
    rw [List.forall₂_map_left_iff, List.forall₂_map_right_iff, List.forall₂_same]
    exact inductionHypothesis

/-- Evaluations of one tree are related that differ in how what stands at a place is
evaluated, if they are related there. -/
theorem evalWith (congruence : Congruence machine other Related)
    {inner : Expr → Action ρ Value} {inner' : Expr → Action ρ' Value} {place : List Nat}
    {expr : Expr}
    (there : ∀ part, expr.subtree? place = some part → Related Value (inner part) (inner' part)) :
    Related Value (machine.evalWith inner place expr) (other.evalWith inner' place expr) := by
  induction place generalizing expr with
  | nil => exact there expr rfl
  | cons index place inductionHypothesis =>
    apply congruence.node
    apply (congruence.steps expr.tag expr.operator).perform
    apply forall₂_mapIdx
    intro here part isChild
    by_cases onTheWay : here = index
    · subst onTheWay
      simp only [if_true]
      apply inductionHypothesis
      intro below reached
      apply there
      rw [Expr.subtree?, isChild]
      exact reached
    · simp only [if_neg onTheWay]
      exact congruence.eval part

end Congruence

namespace BlindCongruence

variable {machine : Machine ρ} {other : Machine ρ'}
  {Related : (α : Type) → Action ρ α → Action ρ' α → Prop}

/-- What holds of any two nodes that do the same holds of one. -/
theorem congruence (blind : BlindCongruence machine other Related) :
    Congruence machine other Related where
  steps := blind.steps
  node _ := blind.node rfl

/-- Evaluations of two trees are related that differ in what stands at a place and in how
it is evaluated, if they are related there.

Proof: by induction on the place. A node on the way to it keeps its tag and its operator,
and its children but for one, which is related by induction. -/
theorem evalWith_replace (blind : BlindCongruence machine other Related)
    {inner : Expr → Action ρ Value} {inner' : Expr → Action ρ' Value} {place : List Nat}
    {expr stranger : Expr}
    (there : ∀ part, expr.subtree? place = some part →
      Related Value (inner part) (inner' stranger)) :
    Related Value (machine.evalWith inner place expr)
      (other.evalWith inner' place (expr.replace place stranger)) := by
  induction place generalizing expr with
  | nil => exact there expr rfl
  | cons index place inductionHypothesis =>
    rw [Machine.evalWith, Machine.evalWith, Expr.replace]
    apply blind.node (Expr.tag_mapChildren _ _)
    -- The children are told by their indices: equal trees may stand beside each other.
    rw [Expr.tag_mapChildren, Expr.operator_mapChildren, Expr.children_mapChildren,
      List.mapIdx_mapIdx]
    apply (blind.steps expr.tag expr.operator).perform
    apply forall₂_mapIdx
    intro here part isChild
    rw [Function.comp_apply]
    by_cases onTheWay : here = index
    · subst onTheWay
      simp only [if_true]
      apply inductionHypothesis
      intro below reached
      apply there
      rw [Expr.subtree?, isChild]
      exact reached
    · simp only [if_neg onTheWay]
      exact blind.congruence.eval part

end BlindCongruence

/-- Machines in lockstep come out alike. -/
theorem Lockstep.congruence {machine : Machine ρ} {other : Machine ρ'} {Match : ρ → ρ' → Prop}
    (lockstep : Lockstep machine other (fun _ => True) Match) :
    Congruence machine other fun _ action action' =>
      ∀ state state', Match state state' → Alike Match (action state) (action' state') where
  steps tag _ :=
    { result := fun _ _ _ matched => ⟨rfl, matched⟩
      refusal := fun _ _ _ matched => ⟨rfl, matched⟩
      sequence := fun before later state state' matched =>
        (before state state' matched).andThen (fun _ _ _ reached => ⟨rfl, reached⟩) later
      read := fun key _ state state' matched =>
        .ofRequest (lockstep.reads (.slot tag "" key) key trivial rfl state state' matched)
      write := fun key _ value state state' matched =>
        .ofRequest (lockstep.writes (.setSlot tag "" key (.slot tag "" key)) key trivial rfl value
          state state' matched) }
  node expr _ _ bodies state state' matched := by
    refine (lockstep.enters expr trivial state state' matched).enclose rfl
      (fun _ _ _ reached => ⟨rfl, reached⟩) fun entered entered' reached => ?_
    obtain ⟨same, ended⟩ := bodies entered entered' reached
    exact ⟨same, lockstep.leaves _ _ ended⟩

/-! ## Machines that do not look at the nodes -/

/-- Two machines that answer alike from states that match, whichever nodes ask to be let
in. -/
structure Indifferent (machine : Machine ρ) (other : Machine ρ') (Match : ρ → ρ' → Prop) :
    Prop where
  enters : ∀ node node' state state', Match state state' →
    Alike Match (machine.enter node state) (other.enter node' state')
  leaves : ∀ state state', Match state state' → Match (machine.leave state) (other.leave state')
  reads : ∀ key type state state', Match state state' →
    Alike Match (machine.read key type state) (other.read key type state')
  writes : ∀ key value state state', Match state state' →
    Alike Match (machine.write key value state) (other.write key value state')

namespace Indifferent

variable {machine : Machine ρ} {other : Machine ρ'} {Match : ρ → ρ' → Prop}

/-- Machines that answer alike whichever nodes ask are in lockstep. -/
theorem lockstep (indifferent : Indifferent machine other Match) :
    Lockstep machine other (fun _ => True) Match where
  enters node _ := indifferent.enters node node
  leaves := indifferent.leaves
  reads node key _ _ := indifferent.reads key node.type
  writes _ key _ _ := indifferent.writes key

/-- Actions that come out alike from states that match, whichever nodes take them. -/
theorem blindCongruence (indifferent : Indifferent machine other Match) :
    BlindCongruence machine other fun _ action action' =>
      ∀ state state', Match state state' → Alike Match (action state) (action' state') where
  steps := indifferent.lockstep.congruence.steps
  node {expr expr' _ _} tag bodies state state' matched := by
    have placed : expr'.position = expr.position := congrArg Tag.position tag
    refine (indifferent.enters expr expr' state state' matched).enclose placed
      (fun _ _ _ reached => ⟨rfl, reached⟩) fun entered entered' reached => ?_
    obtain ⟨same, ended⟩ := bodies entered entered' reached
    exact ⟨same, indifferent.leaves _ _ ended⟩

end Indifferent

end RuleTree
