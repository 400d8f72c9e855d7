import RuleTree.Proofs.NodeBody

/-!
# Evaluations on two machines

The evaluator reaches its machine only through entering and leaving nodes and
through requests. A relation between the actions of two machines that holds of
these, of results and of violated invariants, and that sequences respect, holds
of the evaluations of every tree. Nothing about the relation itself is assumed:
it may compare results, say that one machine has stopped where the other goes
on, or forget one of the machines and be a property of the other.

What a node does itself, it does at its own position and with its own key, and
whatever else happens in its body is the evaluation of one of its children. The
law is therefore stated node by node, with one relation for the steps of a node
and another for the evaluation of a tree. For a relation that does not care whose
step it is, both are one.

The requests that are made are those of the nodes of the tree. A relation may
therefore hold of fewer requests than there are, if the tree makes no others.
-/

namespace RuleTree

variable {ρ ρ' : Type}

/-! ## Node by node -/

/-- Relations between the actions of two machines which everything that an
evaluation is made of respects. `Steps` relates what happens in the body of a node,
which it is told, and `Trees` relates evaluations of a tree. -/
structure Nodewise (machine : Machine ρ) (other : Machine ρ')
    (Steps : Expr → (α : Type) → Action ρ α → Action ρ' α → Prop)
    (Trees : Expr → Action ρ Value → Action ρ' Value → Prop) : Prop where
  result : ∀ (owner : Expr) {α : Type} (result : α), Steps owner α (pure result) (pure result)
  refusal : ∀ (owner : Expr) {α : Type} (error : ValueError),
    Steps owner α (.ofValue owner.position (.error error)) (.ofValue owner.position (.error error))
  sequence : ∀ (owner : Expr) {α β : Type} {first : Action ρ α} {first' : Action ρ' α}
    {next : α → Action ρ β} {next' : α → Action ρ' β}, Steps owner α first first' →
    (∀ result, Steps owner β (next result) (next' result)) →
    Steps owner β (first >>= next) (first' >>= next')
  read : ∀ (owner : Expr) (key : Key), owner.readKey? = some key →
    Steps owner Value (machine.readAt owner.tag key) (other.readAt owner.tag key)
  write : ∀ (owner : Expr) (key : Key), owner.writtenKey? = some key → ∀ value,
    Steps owner Unit (machine.writeAt owner.tag key value) (other.writeAt owner.tag key value)
  child : ∀ {owner part : Expr} {action : Action ρ Value} {action' : Action ρ' Value},
    part ∈ owner.children → Trees part action action' → Steps owner Value action action'
  node : ∀ (expr : Expr) (body : Action ρ Value) (body' : Action ρ' Value),
    machine.eval expr = machine.node expr body → other.eval expr = other.node expr body' →
    Steps expr Value body body' → Trees expr (machine.node expr body) (other.node expr body')

namespace Nodewise

variable {machine : Machine ρ} {other : Machine ρ'}
  {Steps : Expr → (α : Type) → Action ρ α → Action ρ' α → Prop}
  {Trees : Expr → Action ρ Value → Action ρ' Value → Prop}

/-- What the operator of a node does itself corresponds. -/
theorem stepLaws (nodewise : Nodewise machine other Steps Trees) (owner : Expr) :
    StepLaws machine other owner.tag owner.operator (Steps owner) where
  result := nodewise.result owner
  refusal := nodewise.refusal owner
  sequence := nodewise.sequence owner
  read key reads := nodewise.read owner key (owner.readKey?_operator ▸ reads)
  write key writes := nodewise.write owner key (owner.writtenKey?_operator ▸ writes)

/-- The evaluations of every tree correspond.

Proof: by induction on the tree. Each node is entered and left on both machines, and
what its operator does corresponds because its children do. -/
theorem eval (nodewise : Nodewise machine other Steps Trees) (expr : Expr) :
    Trees expr (machine.eval expr) (other.eval expr) := by
  induction expr using Expr.induction_children with
  | node expr inductionHypothesis =>
    have children : List.Forall₂ (Steps expr Value) (expr.children.map machine.eval)
        (expr.children.map other.eval) := by
      rw [List.forall₂_map_left_iff, List.forall₂_map_right_iff, List.forall₂_same]
      exact fun part below => nodewise.child below (inductionHypothesis part below)
    rw [machine.eval_eq, other.eval_eq]
    exact nodewise.node expr _ _ (machine.eval_eq expr) (other.eval_eq expr)
      ((nodewise.stepLaws expr).perform children)

end Nodewise

/-! ## Whoever takes the step -/

/-- A relation between the actions of two machines which everything that an
evaluation is made of respects. `Inside` says which nodes the tree may have. -/
structure Correspondence (machine : Machine ρ) (other : Machine ρ') (Inside : Expr → Prop)
    (Related : (α : Type) → Action ρ α → Action ρ' α → Prop) : Prop where
  result : ∀ {α : Type} (result : α), Related α (pure result) (pure result)
  refusal : ∀ {α : Type} (position : Position) (error : ValueError),
    Related α (.ofValue position (.error error)) (.ofValue position (.error error))
  sequence : ∀ {α β : Type} {first : Action ρ α} {first' : Action ρ' α}
    {next : α → Action ρ β} {next' : α → Action ρ' β}, Related α first first' →
    (∀ result, Related β (next result) (next' result)) →
    Related β (first >>= next) (first' >>= next')
  slot : ∀ tag label key, Inside (.slot tag label key) →
    Related Value (machine.readAt tag key) (other.readAt tag key)
  setSlot : ∀ tag label key value, Inside (.setSlot tag label key value) → ∀ result,
    Related Unit (machine.writeAt tag key result) (other.writeAt tag key result)
  loop : ∀ tag list body stop key, Inside (.loop tag list body stop key) → ∀ item,
    Related Unit (machine.writeAt tag key item) (other.writeAt tag key item)
  node : ∀ expr body body', Inside expr → machine.eval expr = machine.node expr body →
    other.eval expr = other.node expr body' → Related Value body body' →
    Related Value (machine.node expr body) (other.node expr body')

namespace Correspondence

variable {machine : Machine ρ} {other : Machine ρ'} {Inside : Expr → Prop}
  {Related : (α : Type) → Action ρ α → Action ρ' α → Prop}

/-- A correspondence is one node by node, as far as the nodes of a tree are
inside. -/
theorem nodewise (corresponds : Correspondence machine other Inside Related) :
    Nodewise machine other
      (fun owner α action action' => (∀ node ∈ owner.nodes, Inside node) → Related α action action')
      (fun expr action action' =>
        (∀ node ∈ expr.nodes, Inside node) → Related Value action action') where
  result _ _ result _ := corresponds.result result
  refusal owner _ error _ := corresponds.refusal owner.position error
  sequence _ _ _ _ _ _ _ before later inside :=
    corresponds.sequence (before inside) fun result => later result inside
  read owner key reads inside := by
    have here : Inside owner := inside owner owner.mem_nodes_self
    cases owner <;> cases reads
    exact corresponds.slot _ _ _ here
  write owner key writes value inside := by
    have here : Inside owner := inside owner owner.mem_nodes_self
    cases owner <;> cases writes
    case setSlot => exact corresponds.setSlot _ _ _ _ here value
    case loop => exact corresponds.loop _ _ _ _ _ here value
  child below related inside :=
    related fun node member => inside node (Expr.nodes_subset_of_mem_children below member)
  node expr body body' evaluates evaluates' bodies inside :=
    corresponds.node expr body body' (inside expr expr.mem_nodes_self) evaluates evaluates'
      (bodies inside)

/-- The evaluations of a tree correspond if the relation admits its nodes. -/
theorem eval (corresponds : Correspondence machine other Inside Related) (expr : Expr)
    (inside : ∀ node ∈ expr.nodes, Inside node) :
    Related Value (machine.eval expr) (other.eval expr) :=
  corresponds.nodewise.eval expr inside

end Correspondence

end RuleTree
