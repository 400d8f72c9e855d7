import Mathlib.Data.List.Nodup
import RuleTree.Proofs.Place

/-!
# The places of a tree in preorder

A node is told from the other nodes of its tree by its place, for equal trees may stand at
several places. The places are listed in preorder: the place of the tree itself comes first,
and then the places in its children, child by child as they are written. At the places
stand the nodes of the tree, one at each and in the order in which they are listed.
-/

namespace RuleTree.Expr

/-- Places in the child with an index, if there is one, as places in the tree. -/
def within (expr : Expr) (index : Nat)
    (listing : (child : Expr) → child ∈ expr.children → List (List Nat)) : List (List Nat) :=
  match found : expr.children[index]? with
  | some child => (listing child (List.mem_of_getElem? found)).map (index :: ·)
  | none => []

/-- The places of a tree in preorder. -/
def places (expr : Expr) : List (List Nat) :=
  [] :: (List.range expr.children.length).flatMap fun index =>
    expr.within index fun child _ => child.places
termination_by expr.nodes.length
decreasing_by exact length_nodes_lt_of_mem_children ‹_›

variable {expr child : Expr} {index : Nat}
  {listing : (child : Expr) → child ∈ expr.children → List (List Nat)}

/-- Places in a child that is there. -/
theorem within_some (found : expr.children[index]? = some child) :
    expr.within index listing =
      (listing child (List.mem_of_getElem? found)).map (index :: ·) := by
  unfold within
  split
  · rename_i other same
    cases found.symm.trans same
    rfl
  · rename_i absent
    cases found.symm.trans absent

/-- There are no places in a child that is missing. -/
theorem within_none (absent : expr.children[index]? = none) : expr.within index listing = [] := by
  unfold within
  split
  · rename_i other found
    cases found.symm.trans absent
  · rfl

/-- Places in a child begin with its index. -/
theorem eq_cons_of_mem_within {place : List Nat} (inside : place ∈ expr.within index listing) :
    ∃ below, place = index :: below := by
  cases found : expr.children[index]? with
  | none =>
    rw [within_none found] at inside
    exact absurd inside List.not_mem_nil
  | some child =>
    rw [within_some found] at inside
    obtain ⟨below, _, rfl⟩ := List.mem_map.mp inside
    exact ⟨below, rfl⟩

/-- What stands at a place in a child stands at the place in the tree. -/
theorem subtree?_cons (found : expr.children[index]? = some child) (place : List Nat) :
    expr.subtree? (index :: place) = child.subtree? place := by
  rw [subtree?, found]
  rfl

/-- What stands at the places that are listed in a child. -/
theorem map_subtree?_within (found : expr.children[index]? = some child) :
    (expr.within index listing).map (expr.subtree? ·) =
      (listing child (List.mem_of_getElem? found)).map (child.subtree? ·) := by
  rw [within_some found, List.map_map]
  refine List.map_congr_left fun place _ => subtree?_cons found place

/-- To go through a list is to go through its indices. -/
theorem flatMap_range {α β : Type} {items : List α} {f : Nat → List β} {g : α → List β}
    (each : ∀ index item, items[index]? = some item → f index = g item) :
    (List.range items.length).flatMap f = items.flatMap g := by
  have same : (List.range items.length).map f = items.map g := by
    apply List.ext_getElem
    · simp only [List.length_map, List.length_range]
    · intro index inside _
      rw [List.length_map, List.length_range] at inside
      rw [List.getElem_map, List.getElem_map, List.getElem_range]
      exact each index _ (List.getElem?_eq_getElem inside)
  rw [List.flatMap_def, List.flatMap_def, same]

/-- At the places of a tree stand its nodes, in the order in which they are listed.

Proof: by induction on the tree. Both lists have the tree itself first and go on child by
child. -/
theorem map_subtree?_places (expr : Expr) :
    expr.places.map (expr.subtree? ·) = expr.nodes.map some := by
  induction expr using induction_children with
  | node expr inductionHypothesis =>
    have later : ((List.range expr.children.length).flatMap fun index =>
        expr.within index fun child _ => child.places).map (expr.subtree? ·) =
          (expr.children.flatMap nodes).map some := by
      rw [List.map_flatMap, List.map_flatMap]
      apply flatMap_range
      intro index child found
      rw [map_subtree?_within found]
      exact inductionHypothesis child (List.mem_of_getElem? found)
    rw [places, List.map_cons, later, nodes_eq_cons, List.map_cons]
    rfl

/-- No place is listed twice.

Proof: by induction on the tree. Places in different children begin with different indices. -/
theorem nodup_places (expr : Expr) : expr.places.Nodup := by
  induction expr using induction_children with
  | node expr inductionHypothesis =>
    rw [places, List.nodup_cons, List.nodup_flatMap]
    refine ⟨?rootOnce, ?inEach, ?between⟩
    case rootOnce =>
      intro listed
      obtain ⟨index, _, inside⟩ := List.mem_flatMap.mp listed
      obtain ⟨below, same⟩ := eq_cons_of_mem_within inside
      cases same
    case inEach =>
      intro index _
      cases found : expr.children[index]? with
      | none =>
        rw [within_none found]
        exact List.nodup_nil
      | some child =>
        rw [within_some found]
        refine (inductionHypothesis child (List.mem_of_getElem? found)).map ?_
        exact fun place other same => (List.cons.inj same).2
    case between =>
      refine List.nodup_range.imp fun {index other} different place inside insideOther => ?_
      obtain ⟨below, rfl⟩ := eq_cons_of_mem_within inside
      obtain ⟨_, same⟩ := eq_cons_of_mem_within insideOther
      exact different (List.cons.inj same).1

end RuleTree.Expr
