import RuleTree.Json.Basic
import RuleTree.Proofs.EntryOrder

/-!
# JSON values with their members in order

The type of JSON values leaves room for objects with a name twice or with names
in any order. No reader makes them: members are held in ascending order of their
names. `Ordered` says so at every depth, and is what laws about all JSON values
assume of them.
-/

namespace RuleTree.Json

/-- Induction over JSON values. The items of an array and the members of an object
have their hypotheses one by one. -/
@[induction_eliminator]
theorem induction {motive : Json → Prop} (null : motive .null)
    (bool : ∀ value, motive (.bool value)) (number : ∀ value, motive (.number value))
    (string : ∀ text, motive (.string text))
    (array : ∀ items, (∀ item ∈ items, motive item) → motive (.array items))
    (object : ∀ members, (∀ member ∈ members, motive member.2) → motive (.object members))
    (json : Json) : motive json := by
  refine @Json.rec motive (fun items => ∀ item ∈ items, motive item)
    (fun members => ∀ member ∈ members, motive member.2) (fun member => motive member.2)
    null bool number string array object ?noItems ?moreItems ?noMembers ?moreMembers
    (fun _ _ holds => holds) json
  case noItems =>
    intro item member
    exact absurd member List.not_mem_nil
  case moreItems =>
    intro first rest holds others
    exact List.forall_mem_cons.mpr ⟨holds, others⟩
  case noMembers =>
    intro item member
    exact absurd member List.not_mem_nil
  case moreMembers =>
    intro first rest holds others
    exact List.forall_mem_cons.mpr ⟨holds, others⟩

/-- At every depth, the members of an object are in ascending order of their names. -/
inductive Ordered : Json → Prop
  | null : Ordered .null
  | bool (value : Bool) : Ordered (.bool value)
  | number (value : JsonNumber) : Ordered (.number value)
  | string (text : String) : Ordered (.string text)
  | array (items : List Json) (inside : ∀ item ∈ items, Ordered item) : Ordered (.array items)
  | object (members : List (String × Json)) (inside : ∀ member ∈ members, Ordered member.2)
      (ascending : Entries.Ascending (members.map (·.1))) : Ordered (.object members)

end RuleTree.Json
