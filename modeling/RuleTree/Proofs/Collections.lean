import RuleTree.Proofs.EntryOrder
import RuleTree.Proofs.Outcome
import RuleTree.Proofs.TypedValue

/-!
# Lists and maps that are made

Making a list looks at the types of its items and at nothing inside them, and
making a map drops the names without values and looks at the types of the others.
What they make, and when, is said here exactly. If what goes in is well formed,
so is what comes out: the check of one level and the well-formedness of what is
below it are what well-formedness asks of the whole.
-/

namespace RuleTree.Value

variable {unit : Signature} {value : Value}

/-- Entries are as they should be if each has values, all of which fit the type. -/
theorem entriesOf_iff {entries : List (String × List Value)} :
    EntriesOf unit entries ↔
      ∀ entry ∈ entries, entry.2 ≠ [] ∧ ∀ value ∈ entry.2, value.Fits unit := by
  induction entries with
  | nil =>
    constructor
    · intro _ entry impossible
      exact absurd impossible List.not_mem_nil
    · intro _
      exact .nil unit
  | cons first rest inductionHypothesis =>
    obtain ⟨name, values⟩ := first
    rw [List.forall_mem_cons, ← inductionHypothesis, ← allOf_iff]
    constructor
    · intro inside
      cases inside with
      | cons _ _ _ _ occupied inside others => exact ⟨⟨occupied, inside⟩, others⟩
    · rintro ⟨⟨occupied, inside⟩, others⟩
      exact .cons unit name values rest occupied inside others

/-- What is made once all values have been found to be of the unit type, is made if
they are. -/
theorem checked_ok_iff {values : List Value} {made : Value} :
    (match values.find? fun value => !value.hasSignature unit with
      | some stranger => Except.error (ValueError.typeMismatch unit stranger.signature)
      | none => .ok made) = .ok value ↔
      (∀ value ∈ values, value.signature = unit) ∧ value = made := by
  have clean : values.find? (fun value => !value.hasSignature unit) = none ↔
      ∀ value ∈ values, value.signature = unit := by
    rw [List.find?_eq_none]
    simp [hasSignature_eq]
  rw [← clean]
  cases values.find? fun value => !value.hasSignature unit with
  | none =>
    constructor
    · intro same
      exact ⟨rfl, (Except.ok.inj same).symm⟩
    · rintro ⟨_, rfl⟩
      rfl
  | some stranger =>
    constructor
    · intro impossible
      cases impossible
    · rintro ⟨impossible, _⟩
      cases impossible

/-- Items make a list if all are of the unit type; the list keeps them as they are. -/
theorem ofItems_ok_iff {items : List Value} :
    ofItems unit items = .ok value ↔
      (∀ item ∈ items, item.signature = unit) ∧ value = .list unit items :=
  checked_ok_iff

/-- Entries make a map if all their values are of the unit type; the map keeps those
that have values. -/
theorem ofEntries_ok_iff {entries : List (String × List Value)} :
    ofEntries unit entries = .ok value ↔
      (∀ entry ∈ entries, ∀ value ∈ entry.2, value.signature = unit) ∧
        value = .map unit (entries.filter fun entry => !entry.2.isEmpty) := by
  have flat : (∀ entry ∈ entries, ∀ value ∈ entry.2, value.signature = unit) ↔
      ∀ value ∈ (entries.filter fun entry => !entry.2.isEmpty).flatMap (·.2),
        value.signature = unit := by
    constructor
    · intro typed value member
      obtain ⟨entry, kept, inside⟩ := List.mem_flatMap.mp member
      exact typed entry (List.mem_filter.mp kept).1 value inside
    · intro typed entry member value inside
      have occupied : (!entry.2.isEmpty) = true := by
        cases held : entry.2 with
        | nil => exact absurd (held ▸ inside) List.not_mem_nil
        | cons first rest => rfl
      exact typed value
        (List.mem_flatMap.mpr ⟨entry, List.mem_filter.mpr ⟨member, occupied⟩, inside⟩)
  rw [flat]
  exact checked_ok_iff

/-- The type of a value that is not of the unit type. -/
def strange? (unit : Signature) (value : Value) : Option Signature :=
  if value.signature = unit then none else some value.signature

/-- What is made once all values have been found to be of the unit type, is refused for
the first that is not. -/
theorem refusal?_checked {values : List Value} {made : Value} :
    refusal? (match values.find? fun value => !value.hasSignature unit with
      | some stranger => Except.error (ValueError.typeMismatch unit stranger.signature)
      | none => .ok made) = (values.findSome? (strange? unit)).map (.typeMismatch unit) := by
  induction values with
  | nil => rfl
  | cons first rest inductionHypothesis =>
    by_cases same : first.signature = unit
    · simpa [hasSignature_eq, strange?, same] using inductionHypothesis
    · simp [hasSignature_eq, strange?, same, refusal?]

/-- A list is refused for the first item that is not of the unit type, and for nothing else. -/
theorem refusal?_ofItems {items : List Value} :
    refusal? (ofItems unit items) = (items.findSome? (strange? unit)).map (.typeMismatch unit) :=
  refusal?_checked

/-- A map is refused for the first value, in the order of the entries, that is not of the
unit type, and for nothing else. -/
theorem refusal?_ofEntries {entries : List (String × List Value)} :
    refusal? (ofEntries unit entries) =
      ((entries.flatMap (·.2)).findSome? (strange? unit)).map (.typeMismatch unit) := by
  have kept : (entries.filter fun entry => !entry.2.isEmpty).flatMap (·.2) =
      entries.flatMap (·.2) := by
    induction entries with
    | nil => rfl
    | cons entry rest inductionHypothesis =>
      obtain ⟨name, values⟩ := entry
      cases values with
      | nil => simpa using inductionHypothesis
      | cons first values => simpa using inductionHypothesis
  rw [← kept]
  exact refusal?_checked

/-- A list that is made of well-formed items fits its type. -/
theorem ofItems_fits {items : List Value} (formed : ∀ item ∈ items, item.WellFormed)
    (made : ofItems unit items = .ok value) : value.Fits (.list unit) := by
  obtain ⟨typed, rfl⟩ := ofItems_ok_iff.mp made
  exact ⟨.list unit items (allOf_iff.mpr fun item member =>
    ⟨formed item member, typed item member⟩), rfl⟩

/-- A map that is made of well-formed values under ascending names fits its type. -/
theorem ofEntries_fits {entries : List (String × List Value)}
    (formed : ∀ entry ∈ entries, ∀ value ∈ entry.2, value.WellFormed)
    (ascending : Entries.Ascending (entries.map (·.1)))
    (made : ofEntries unit entries = .ok value) : value.Fits (.map unit) := by
  obtain ⟨typed, rfl⟩ := ofEntries_ok_iff.mp made
  refine ⟨.map unit _ (entriesOf_iff.mpr fun entry kept => ?_) (ascending.filter _), rfl⟩
  obtain ⟨member, occupied⟩ := List.mem_filter.mp kept
  refine ⟨by simpa using occupied, fun value inside => ?_⟩
  exact ⟨formed entry member value inside, typed entry member value inside⟩

/-- Entries that all have values of the unit type make a map that keeps them all. -/
theorem ofEntries_ok {entries : List (String × List Value)} (inside : EntriesOf unit entries) :
    ofEntries unit entries = .ok (.map unit entries) := by
  rw [entriesOf_iff] at inside
  have kept : (entries.filter fun entry => !entry.2.isEmpty) = entries := by
    rw [List.filter_eq_self]
    intro entry member
    simpa using (inside entry member).1
  rw [ofEntries_ok_iff, kept]
  exact ⟨fun entry member value held => ((inside entry member).2 value held).typed, rfl⟩

end RuleTree.Value
