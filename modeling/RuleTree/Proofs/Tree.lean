import RuleTree.Expr.Basic

/-!
# The nodes of a tree

A tree is listed in preorder: a node before its children, and those from left to
right as they are written. A property of a whole tree is a property of every node
in its list. Optional children and the parts of a sequence are no trees
themselves; induction over trees therefore treats them as so many children, and
asks nothing of a child that is not there.
-/

namespace RuleTree.Expr

/-- Induction over trees. A child that may be missing has its hypothesis where it
is there, and the parts of a sequence have theirs one by one. -/
@[induction_eliminator]
theorem induction {motive : Expr → Prop}
    (constant : ∀ tag value, motive (.constant tag value))
    (slot : ∀ tag label key, motive (.slot tag label key))
    (entry : ∀ tag label key source, motive source → motive (.entry tag label key source))
    (setSlot : ∀ tag label key value, motive value → motive (.setSlot tag label key value))
    (setEntry : ∀ tag label key value target, motive value → motive target →
      motive (.setEntry tag label key value target))
    (compare : ∀ tag comparison left right, motive left → motive right →
      motive (.compare tag comparison left right))
    (both : ∀ tag left right, motive left → motive right → motive (.both tag left right))
    (either : ∀ tag left right, motive left → motive right → motive (.either tag left right))
    (negation : ∀ tag operand, motive operand → motive (.negation tag operand))
    (branch : ∀ tag check consequent alternative, motive check → motive consequent →
      (∀ part, alternative = some part → motive part) →
      motive (.branch tag check consequent alternative))
    (loop : ∀ tag list body stop key, motive list → motive body →
      (∀ part, stop = some part → motive part) → motive (.loop tag list body stop key))
    (search : ∀ tag kind key collection fallback, motive key → motive collection →
      (∀ part, fallback = some part → motive part) →
      motive (.search tag kind key collection fallback))
    (sequence : ∀ tag parts, (∀ part ∈ parts, motive part) → motive (.sequence tag parts))
    (expr : Expr) : motive expr := by
  refine @Expr.rec motive (fun optional => ∀ part, optional = some part → motive part)
    (fun parts => ∀ part ∈ parts, motive part)
    constant slot entry setSlot setEntry compare both either negation branch loop search
    sequence ?absent ?present ?vacant ?further expr
  case absent =>
    intro part impossible
    cases impossible
  case present =>
    intro part holds other same
    obtain rfl : part = other := Option.some.inj same
    exact holds
  case vacant =>
    intro part member
    exact absurd member List.not_mem_nil
  case further =>
    intro first rest holds others part member
    rcases List.mem_cons.mp member with rfl | later
    · exact holds
    · exact others part later

mutual
/-- The nodes of a tree in preorder. -/
def nodes : Expr → List Expr
  | .constant tag value => [.constant tag value]
  | .slot tag label key => [.slot tag label key]
  | .entry tag label key source => .entry tag label key source :: nodes source
  | .setSlot tag label key value => .setSlot tag label key value :: nodes value
  | .setEntry tag label key value target =>
    .setEntry tag label key value target :: (nodes value ++ nodes target)
  | .compare tag comparison left right =>
    .compare tag comparison left right :: (nodes left ++ nodes right)
  | .both tag left right => .both tag left right :: (nodes left ++ nodes right)
  | .either tag left right => .either tag left right :: (nodes left ++ nodes right)
  | .negation tag operand => .negation tag operand :: nodes operand
  | .branch tag check consequent alternative =>
    .branch tag check consequent alternative ::
      (nodes check ++ (nodes consequent ++ nodesOptional alternative))
  | .loop tag list body stop key =>
    .loop tag list body stop key :: (nodes list ++ (nodes body ++ nodesOptional stop))
  | .search tag kind key collection fallback =>
    .search tag kind key collection fallback ::
      (nodes key ++ (nodes collection ++ nodesOptional fallback))
  | .sequence tag parts => .sequence tag parts :: nodesAll parts

/-- The nodes of a tree that may be missing. -/
def nodesOptional : Option Expr → List Expr
  | none => []
  | some expr => nodes expr

/-- The nodes of several trees, one tree after another. -/
def nodesAll : List Expr → List Expr
  | [] => []
  | first :: rest => nodes first ++ nodesAll rest
end

/-- The trees right below a node, in the order in which they are written. -/
def children : Expr → List Expr
  | .constant .. | .slot .. => []
  | .entry _ _ _ source => [source]
  | .setSlot _ _ _ value => [value]
  | .setEntry _ _ _ value target => [value, target]
  | .compare _ _ left right | .both _ left right | .either _ left right => [left, right]
  | .negation _ operand => [operand]
  | .branch _ check consequent alternative => check :: consequent :: alternative.toList
  | .loop _ list body stop _ => list :: body :: stop.toList
  | .search _ _ key collection fallback => key :: collection :: fallback.toList
  | .sequence _ parts => parts

/-- The key of the slot that a node itself reads, if it reads one. -/
def readKey? : Expr → Option Key
  | .slot _ _ key => some key
  | _ => none

/-- The key of the slot that a node itself writes, if it writes one: a loop writes
the items of its list. -/
def writtenKey? : Expr → Option Key
  | .setSlot _ _ key _ | .loop _ _ _ _ key => some key
  | _ => none

/-- Every tree is a node of itself. -/
theorem mem_nodes_self (expr : Expr) : expr ∈ expr.nodes := by
  cases expr <;> simp [nodes]

/-- The nodes of a missing tree have every property, and those of a tree that is
there have the properties of its nodes. -/
theorem forall_nodesOptional {property : Expr → Prop} {optional : Option Expr} :
    (∀ node ∈ nodesOptional optional, property node) ↔
      ∀ part, optional = some part → ∀ node ∈ part.nodes, property node := by
  cases optional <;> simp [nodesOptional]

/-- The nodes of several trees are the nodes of each. -/
theorem forall_nodesAll {property : Expr → Prop} {parts : List Expr} :
    (∀ node ∈ nodesAll parts, property node) ↔
      ∀ part ∈ parts, ∀ node ∈ part.nodes, property node := by
  induction parts with
  | nil => simp [nodesAll]
  | cons first rest others =>
    simp only [nodesAll, List.forall_mem_append, others, List.forall_mem_cons]

/-- The nodes of a tree are the tree and then the nodes of its children, child by
child. -/
theorem nodes_eq_cons (expr : Expr) : expr.nodes = expr :: expr.children.flatMap nodes := by
  have optionally (optional : Option Expr) :
      nodesOptional optional = optional.toList.flatMap nodes := by
    cases optional <;> simp [nodesOptional]
  have altogether (parts : List Expr) : nodesAll parts = parts.flatMap nodes := by
    induction parts with
    | nil => rfl
    | cons first rest others => rw [nodesAll, others, List.flatMap_cons]
  cases expr <;> simp [nodes, children, optionally, altogether]

/-- The nodes of a child are nodes of the tree. -/
theorem nodes_subset_of_mem_children {owner part : Expr} (below : part ∈ owner.children) :
    part.nodes ⊆ owner.nodes := by
  intro node member
  rw [nodes_eq_cons owner]
  exact List.mem_cons_of_mem owner (List.mem_flatMap_of_mem below member)

/-- A child has fewer nodes than the tree. -/
theorem length_nodes_lt_of_mem_children {owner part : Expr} (below : part ∈ owner.children) :
    part.nodes.length < owner.nodes.length := by
  have within : part.nodes.Sublist (owner.children.map nodes).flatten :=
    List.sublist_flatten_of_mem (List.mem_map_of_mem below)
  rw [nodes_eq_cons owner, List.length_cons, List.flatMap_def]
  exact Nat.lt_succ_of_le within.length_le

/-- Induction over trees that does not tell nodes apart: what holds of a tree if it holds
of its children holds of every tree. -/
theorem induction_children {motive : Expr → Prop}
    (node : ∀ expr, (∀ part ∈ expr.children, motive part) → motive expr) (expr : Expr) :
    motive expr :=
  node expr fun part _ => induction_children node part
termination_by expr.nodes.length
decreasing_by exact length_nodes_lt_of_mem_children ‹_›

end RuleTree.Expr
