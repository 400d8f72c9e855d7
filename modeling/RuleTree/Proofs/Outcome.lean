/-!
# Outcomes

What is known of the parts of a computation once the whole has succeeded, and why
it has failed if it has not.
-/

namespace RuleTree

variable {ε φ α β : Type}

/-- A sequence succeeds if both parts do, and only then. -/
theorem bind_ok_iff {first : Except ε α} {next : α → Except ε β} {result : β} :
    (first >>= next) = .ok result ↔ ∃ middle, first = .ok middle ∧ next middle = .ok result := by
  cases first <;> simp [bind, Except.bind]

/-- The parts of a sequence that has succeeded. -/
theorem bind_ok {first : Except ε α} {next : α → Except ε β} {result : β}
    (succeeded : (first >>= next) = .ok result) :
    ∃ middle, first = .ok middle ∧ next middle = .ok result :=
  bind_ok_iff.mp succeeded

/-- A sequence fails if its first part does, or else if the second does. -/
theorem bind_error_iff {first : Except ε α} {next : α → Except ε β} {error : ε} :
    (first >>= next) = .error error ↔
      first = .error error ∨ ∃ middle, first = .ok middle ∧ next middle = .error error := by
  cases first <;> simp [bind, Except.bind]

/-- Telling errors in other words changes no success. -/
theorem mapError_ok_iff {outcome : Except ε α} {told : ε → φ} {result : α} :
    outcome.mapError told = .ok result ↔ outcome = .ok result := by
  cases outcome with
  | error error =>
    constructor
    · intro impossible
      cases impossible
    · intro impossible
      cases impossible
  | ok value =>
    constructor
    · intro same
      rw [Except.ok.inj same]
    · intro same
      rw [Except.ok.inj same]
      rfl

/-- Why an outcome is a failure, if it is one. -/
def refusal? : Except ε α → Option ε
  | .ok _ => none
  | .error error => some error

/-- An outcome is a failure for the reason it gives. -/
theorem refusal?_eq_some {outcome : Except ε α} {error : ε} :
    refusal? outcome = some error ↔ outcome = .error error := by
  cases outcome with
  | ok result => simp [refusal?]
  | error other => simp [refusal?]

/-- An outcome that is no failure is a success. -/
theorem refusal?_eq_none {outcome : Except ε α} :
    refusal? outcome = none ↔ ∃ result, outcome = .ok result := by
  cases outcome <;> simp [refusal?]

/-- Where errors are told in other words, so is the reason of a failure. -/
theorem refusal?_mapError {outcome : Except ε α} {told : ε → φ} :
    refusal? (outcome.mapError told) = (refusal? outcome).map told := by
  cases outcome <;> rfl

end RuleTree
