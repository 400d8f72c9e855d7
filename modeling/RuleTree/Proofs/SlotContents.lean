import RuleTree.Eval.Context
import RuleTree.Proofs.EntryOrder
import RuleTree.Proofs.TypedValue

/-!
# What the slots of the plain context hold

A property of names and values holds of slots if it holds of every name that is
occupied and its value. A write concerns one name, so the property is kept if it
holds of what is written. What is read has the type that was asked for, since
the plain context refuses everything else; it is well formed if what is held is.
-/

namespace RuleTree

namespace Slots

/-- The property holds of every occupied name and its value. -/
def All (Holds : String → Value → Prop) (slots : Slots) : Prop :=
  ∀ name value, slots.get? name = some value → Holds name value

/-- A slot holds what was written to it last. -/
theorem get?_insert (slots : Slots) (name other : String) (value : Value) :
    (slots.insert name value).get? other = if other = name then some value else slots.get? other :=
  Entries.lookup_insert name other value slots.entries

variable {Holds : String → Value → Prop} {slots : Slots}

/-- Nothing is held where no slot is occupied. -/
theorem all_empty (Holds : String → Value → Prop) : empty.All Holds := by
  intro name value found
  cases found

/-- The property is kept by a write of what it holds of. -/
theorem All.insert (held : slots.All Holds) {name : String} {value : Value}
    (written : Holds name value) : (slots.insert name value).All Holds := by
  intro other found present
  rw [get?_insert] at present
  split at present
  · rename_i same
    cases present
    rw [same]
    exact written
  · exact held other found present

/-- What is read is the nil of an empty slot or what the slot holds, and is of the
type that was asked for. -/
theorem read_ok {key : Key} {type : Signature} {value : Value}
    (answer : slots.read key type = .ok value) :
    value = .nil type ∨ ∃ name, key = .named name ∧ slots.get? name = some value ∧
      value.signature = type := by
  cases key with
  | indexed index => cases answer
  | named name =>
    unfold read at answer
    dsimp only at answer
    split at answer
    · cases answer
      exact .inl rfl
    · split at answer
      · rename_i held found same
        cases answer
        exact .inr ⟨name, rfl, found, by simpa [Value.hasSignature_eq] using same⟩
      · cases answer

/-- A slot that holds nothing but values of the type can be read. -/
theorem read_of_all {name : String} {type : Signature}
    (typed : ∀ value, slots.get? name = some value → value.signature = type) :
    ∃ value, slots.read (.named name) type = .ok value := by
  rcases found : slots.get? name with _ | value
  · exact ⟨.nil type, by simp [read, found]⟩
  · exact ⟨value, by simp [read, found, Value.hasSignature_eq, typed value found]⟩

end Slots

end RuleTree
