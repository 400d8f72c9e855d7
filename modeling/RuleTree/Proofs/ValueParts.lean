import RuleTree.Value.Equality

/-!
# The values within a value

A list has items and a map has values under its names, and these have parts in
their turn. Induction over values gives the hypothesis for every item and for
every value under a name. The parts of a value are listed in preorder, the value
itself first.
-/

namespace RuleTree.Value

/-- Induction over values. The items of a list and the values of a map have their
hypotheses one by one. -/
@[induction_eliminator]
theorem induction {motive : Value → Prop} (nil : ∀ type, motive (.nil type))
    (boolean : ∀ payload, motive (.boolean payload))
    (integer : ∀ payload, motive (.integer payload))
    (string : ∀ payload, motive (.string payload)) (regexp : ∀ payload, motive (.regexp payload))
    (list : ∀ unit items, (∀ item ∈ items, motive item) → motive (.list unit items))
    (map : ∀ unit entries, (∀ entry ∈ entries, ∀ value ∈ entry.2, motive value) →
      motive (.map unit entries))
    (value : Value) : motive value := by
  refine @Value.rec motive (fun items => ∀ item ∈ items, motive item)
    (fun entries => ∀ entry ∈ entries, ∀ value ∈ entry.2, motive value)
    (fun entry => ∀ value ∈ entry.2, motive value)
    nil boolean integer string regexp list map ?noItems ?moreItems ?noEntries ?moreEntries
    (fun _ _ holds => holds) value
  case noItems =>
    intro item member
    exact absurd member List.not_mem_nil
  case moreItems =>
    intro first rest holds others
    exact List.forall_mem_cons.mpr ⟨holds, others⟩
  case noEntries =>
    intro entry member
    exact absurd member List.not_mem_nil
  case moreEntries =>
    intro first rest holds others
    exact List.forall_mem_cons.mpr ⟨holds, others⟩

mutual
/-- The value itself and everything in it, at every depth. -/
def parts : Value → List Value
  | .list unit items => .list unit items :: partsOfAll items
  | .map unit entries => .map unit entries :: partsOfEntries entries
  | value => [value]

/-- The parts of several values, one value after another. -/
def partsOfAll : List Value → List Value
  | [] => []
  | value :: rest => parts value ++ partsOfAll rest

/-- The parts of the values of entries. -/
def partsOfEntries : List (String × List Value) → List Value
  | [] => []
  | (_, values) :: rest => partsOfAll values ++ partsOfEntries rest
end

/-! ## Equality with itself -/

/-- Values that equal themselves do so in a sequence. -/
theorem equalItems_refl {items : List Value} (each : ∀ item ∈ items, item.equal item = true) :
    equalItems items items = true := by
  induction items with
  | nil => rfl
  | cons first rest inductionHypothesis =>
    obtain ⟨same, others⟩ := List.forall_mem_cons.mp each
    simp only [equalItems, same, inductionHypothesis others, Bool.and_true]

/-- Entries whose values equal themselves are equal to themselves. -/
theorem equalEntries_refl {entries : List (String × List Value)}
    (each : ∀ entry ∈ entries, ∀ value ∈ entry.2, value.equal value = true) :
    equalEntries entries entries = true := by
  induction entries with
  | nil => rfl
  | cons first rest inductionHypothesis =>
    obtain ⟨same, others⟩ := List.forall_mem_cons.mp each
    simp only [equalEntries, equalItems_refl same, inductionHypothesis others, beq_self_eq_true,
      Bool.and_true]

/-- Every value equals itself. -/
theorem equal_refl (value : Value) : value.equal value = true := by
  induction value with
  | list unit items inductionHypothesis =>
    simp only [equal, equalItems_refl inductionHypothesis, beq_self_eq_true, Bool.and_true]
  | map unit entries inductionHypothesis =>
    simp only [equal, equalEntries_refl inductionHypothesis, beq_self_eq_true, Bool.and_true]
  | _ => simp only [equal, beq_self_eq_true]

end RuleTree.Value
