import RuleTree.Proofs.WireRoundTrip

/-!
# Equality and wire forms

Two recursions go through values: equality goes through two at once, and encoding through
one. They tell the same values apart. Equality compares types before it compares data, and
an encoded value carries its type before its payload, so what differs in its type alone
differs for both: an empty list of one unit type and of another, the nils of two types, a
string and a regular expression of the same text.

Both come down to identity. Values are equal if they are the same value, since matchers of
one source are the same; and a value can be decoded from its wire form, so no two have the
same.
-/

namespace RuleTree

namespace Value

/-! ## Equality -/

/-- Items that are the same one by one if they are equal are so together. -/
theorem eq_of_equalItems {items items' : List Value}
    (each : ∀ item ∈ items, ∀ other, item.equal other = true → item = other)
    (equal : equalItems items items' = true) : items = items' := by
  induction items generalizing items' with
  | nil =>
    cases items' with
    | nil => rfl
    | cons first' rest' => cases equal
  | cons first rest inductionHypothesis =>
    cases items' with
    | nil => cases equal
    | cons first' rest' =>
      rw [equalItems, Bool.and_eq_true] at equal
      obtain ⟨here, others⟩ := List.forall_mem_cons.mp each
      rw [here first' equal.1, inductionHypothesis others equal.2]

/-- Entries whose values are the same one by one if they are equal are so together. -/
theorem eq_of_equalEntries {entries entries' : List (String × List Value)}
    (each : ∀ entry ∈ entries, ∀ value ∈ entry.2, ∀ other, value.equal other = true →
      value = other)
    (equal : equalEntries entries entries' = true) : entries = entries' := by
  induction entries generalizing entries' with
  | nil =>
    cases entries' with
    | nil => rfl
    | cons first' rest' => cases equal
  | cons first rest inductionHypothesis =>
    cases entries' with
    | nil => cases equal
    | cons first' rest' =>
      obtain ⟨name, values⟩ := first
      obtain ⟨name', values'⟩ := first'
      rw [equalEntries, Bool.and_eq_true, Bool.and_eq_true, beq_iff_eq] at equal
      obtain ⟨⟨rfl, here⟩, later⟩ := equal
      obtain ⟨ofValues, others⟩ := List.forall_mem_cons.mp each
      obtain rfl : values = values' := eq_of_equalItems ofValues here
      rw [inductionHypothesis others later]

/-- Equal values are the same.

Proof: by induction on the first value. Values of different kinds are never equal; of one
kind, the unit types, the items and the entries are the same by induction. -/
theorem eq_of_equal {left right : Value} (equal : left.equal right = true) : left = right := by
  induction left generalizing right with
  | nil type =>
    cases right with
    | nil type' =>
      rw [Value.equal, beq_iff_eq] at equal
      rw [equal]
    | _ => cases equal
  | boolean payload =>
    cases right with
    | boolean payload' =>
      rw [Value.equal, beq_iff_eq] at equal
      rw [equal]
    | _ => cases equal
  | integer payload =>
    cases right with
    | integer payload' =>
      rw [Value.equal, beq_iff_eq] at equal
      rw [equal]
    | _ => cases equal
  | string payload =>
    cases right with
    | string payload' =>
      rw [Value.equal, beq_iff_eq] at equal
      rw [equal]
    | _ => cases equal
  | regexp payload =>
    cases right with
    | regexp payload' =>
      rw [Value.equal, beq_iff_eq] at equal
      rw [Matcher.ext_source equal]
    | _ => cases equal
  | list unit items inductionHypothesis =>
    cases right with
    | list unit' items' =>
      rw [Value.equal, Bool.and_eq_true, beq_iff_eq] at equal
      obtain ⟨units, inside⟩ := equal
      have each : ∀ item ∈ items, ∀ other, item.equal other = true → item = other :=
        fun item member _ => inductionHypothesis item member
      rw [units, eq_of_equalItems each inside]
    | _ => cases equal
  | map unit entries inductionHypothesis =>
    cases right with
    | map unit' entries' =>
      rw [Value.equal, Bool.and_eq_true, beq_iff_eq] at equal
      obtain ⟨units, inside⟩ := equal
      have each : ∀ entry ∈ entries, ∀ value ∈ entry.2, ∀ other, value.equal other = true →
          value = other :=
        fun entry member value inEntry _ => inductionHypothesis entry member value inEntry
      rw [units, eq_of_equalEntries each inside]
    | _ => cases equal

/-- Values are equal if and only if they are the same. -/
theorem equal_iff_eq {left right : Value} : left.equal right = true ↔ left = right :=
  ⟨eq_of_equal, fun same => same ▸ left.equal_refl⟩

end Value

namespace Wire

/-! ## Wire forms -/

/-- Well-formed values with one wire form are the same: both are decoded from it. -/
theorem encode_injective {left right : Value} (formedLeft : left.WellFormed)
    (formedRight : right.WellFormed) (same : encode left = encode right) : left = right := by
  have decoded := congrArg decodeValue same
  rw [decodeValue_encode formedLeft, decodeValue_encode formedRight] at decoded
  exact Except.ok.inj decoded

/-- Equality of values is the equality of their wire forms: well-formed values of whatever
kinds are equal if and only if they are encoded to the same tree. So equality is reflexive,
symmetric and transitive, and equal values are of one type. A nil equals the nils of its
type and nothing else, empty lists and empty maps equal those of their unit type alone, and
no string equals a regular expression.

Proof: equal values are the same value, and so are values that are decoded from one wire
form. What follows is read off equal values as the same value. -/
theorem equal_iff_encode_eq :
    (∀ left right : Value, left.WellFormed → right.WellFormed →
      (left.equal right = true ↔ encode left = encode right)) ∧
    (∀ value : Value, value.equal value = true) ∧
    (∀ left right : Value, left.equal right = true → right.equal left = true) ∧
    (∀ first second third : Value, first.equal second = true → second.equal third = true →
      first.equal third = true) ∧
    (∀ left right : Value, left.equal right = true → left.signature = right.signature) ∧
    (∀ (type : Signature) (value : Value),
      (Value.nil type).equal value = true ↔ value.isNil = true ∧ value.signature = type) ∧
    (∀ unit unit' : Signature,
      ((Value.list unit []).equal (.list unit' []) = true ↔ unit = unit') ∧
      ((Value.map unit []).equal (.map unit' []) = true ↔ unit = unit')) ∧
    (∀ (text : String) (matcher : Matcher), (Value.string text).equal (.regexp matcher) = false ∧
      (Value.regexp matcher).equal (.string text) = false) := by
  refine ⟨?wire, Value.equal_refl, ?symmetric, ?transitive, ?types, ?nils, ?units,
    fun _ _ => ⟨rfl, rfl⟩⟩
  case wire =>
    intro left right formedLeft formedRight
    rw [Value.equal_iff_eq]
    exact ⟨congrArg encode, encode_injective formedLeft formedRight⟩
  case symmetric =>
    intro left right equal
    obtain rfl := Value.eq_of_equal equal
    exact equal
  case transitive =>
    intro first second third equal equalToo
    obtain rfl := Value.eq_of_equal equal
    exact equalToo
  case types =>
    intro left right equal
    rw [Value.eq_of_equal equal]
  case nils =>
    intro type value
    rw [Value.equal_iff_eq]
    constructor
    · rintro rfl
      exact ⟨rfl, rfl⟩
    · rintro ⟨absent, typed⟩
      cases value with
      | nil type' => exact congrArg Value.nil typed.symm
      | _ => cases absent
  case units =>
    intro unit unit'
    simp only [Value.equal_iff_eq, Value.list.injEq, Value.map.injEq, and_true, and_self]

/-- Rows of texts under two names: under the first a row with an absent text, followed by
the given row, and under the second an empty row. -/
def rowsWith (row : Value) : Value :=
  .map (.list .string)
    [("rows", [.list .string [.string "a", .nil .string], row]), ("spare", [.list .string []])]

/-- An absent row and an empty one differ where they are the second of the values under a
name, and so do the wire forms. -/
theorem equal_iff_encode_eq_absentRow :
    (rowsWith (.nil (.list .string))).WellFormed ∧ (rowsWith (.list .string [])).WellFormed ∧
      (rowsWith (.nil (.list .string))).equal (rowsWith (.list .string [])) = false ∧
      encode (rowsWith (.nil (.list .string))) ≠ encode (rowsWith (.list .string [])) := by
  have ordered : "rows" < "spare" := by decide
  have first : (Value.list .string [.string "a", .nil .string]).WellFormed :=
    .list _ _ (.cons _ _ _ (.string "a") rfl (.cons _ _ _ (.nil .string) rfl (.nil _)))
  have spare : (Value.list .string []).WellFormed := .list _ _ (.nil _)
  have formed {row : Value} (ofRow : row.WellFormed) (typed : row.signature = .list .string) :
      (rowsWith row).WellFormed := by
    refine .map _ _ (.cons _ _ _ _ (List.cons_ne_nil _ _) ?rows ?others) ⟨ordered, trivial⟩
    case rows => exact .cons _ _ _ first rfl (.cons _ _ _ ofRow typed (.nil _))
    case others =>
      exact .cons _ _ _ _ (List.cons_ne_nil _ _) (.cons _ _ _ spare rfl (.nil _)) (.nil _)
  have absent := formed (.nil (.list .string)) rfl
  have empty := formed spare rfl
  refine ⟨absent, empty, rfl, fun same => ?_⟩
  have equal := (equal_iff_encode_eq.1 _ _ absent empty).mpr same
  cases equal

end Wire

end RuleTree
