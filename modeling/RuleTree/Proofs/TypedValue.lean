import RuleTree.Eval.Evaluation
import RuleTree.Expr.Build

/-!
# Values of a type and what can be done with them

A value fits a type if it is well formed and of that type. Everything that an
evaluation asks of values is answered for values that fit what the operation
expects, and the answer fits what it promises. Each operation has one statement
here; what is inside a list or map fits its unit type, and this is all that the
statements take from well-formedness.

Two operations are left out because no value has an answer to them: reading an
entry of a map by an index, and assigning to an entry.
-/

namespace RuleTree

/-- The types of operands that a comparison is made for. -/
def Comparison.Accepts : Comparison → Signature → Signature → Prop
  | .equal, _, _ | .notEqual, _, _ => True
  | .less, left, right | .lessEqual, left, right | .greater, left, right
  | .greaterEqual, left, right => left = .integer ∧ right = .integer
  | .matching, left, right => left = .string ∧ right = .regexp

namespace Value

/-- Well formed and of the type. -/
structure Fits (value : Value) (type : Signature) : Prop where
  formed : value.WellFormed
  typed : value.signature = type

/-- The nil of a type fits it. -/
theorem fits_nil (type : Signature) : (Value.nil type).Fits type := ⟨.nil type, rfl⟩

/-- Truth values are booleans. -/
theorem fits_boolean (payload : Bool) : (Value.boolean payload).Fits .boolean :=
  ⟨.boolean payload, rfl⟩

/-- Sequences of values of a type have values that fit it, and nothing else. -/
theorem allOf_iff {unit : Signature} {values : List Value} :
    AllOf unit values ↔ ∀ value ∈ values, value.Fits unit := by
  induction values with
  | nil =>
    constructor
    · intro _ value impossible
      exact absurd impossible List.not_mem_nil
    · intro _
      exact .nil unit
  | cons first rest inductionHypothesis =>
    rw [List.forall_mem_cons, ← inductionHypothesis]
    constructor
    · intro inside
      cases inside with
      | cons _ _ _ formed typed others => exact ⟨⟨formed, typed⟩, others⟩
    · rintro ⟨fits, others⟩
      exact .cons unit first rest fits.formed fits.typed others

/-- What is found under a name are values that fit the unit type, at least one. -/
theorem EntriesOf.lookup {unit : Signature} {entries : List (String × List Value)}
    (inside : EntriesOf unit entries) {name : String} {values : List Value}
    (found : entries.lookup name = some values) :
    values ≠ [] ∧ ∀ value ∈ values, value.Fits unit := by
  induction entries with
  | nil => cases found
  | cons entry rest inductionHypothesis =>
    cases inside with
    | cons _ other held _ occupied formed others =>
      rw [List.lookup_cons] at found
      split at found
      · obtain rfl : held = values := Option.some.inj found
        exact ⟨occupied, allOf_iff.mp formed⟩
      · exact inductionHypothesis others found

/-! ## What the values of a type are -/

variable {value : Value} {unit : Signature}

/-- The only value of the untyped nil is nil. -/
theorem Fits.nil_eq (fits : value.Fits .nil) : value = .nil .nil := by
  obtain ⟨formed, typed⟩ := fits
  cases value with
  | nil type => exact congrArg Value.nil typed
  | _ => cases typed

/-- A boolean is nil or a truth value. -/
theorem Fits.boolean_cases (fits : value.Fits .boolean) :
    value = .nil .boolean ∨ ∃ payload, value = .boolean payload := by
  obtain ⟨formed, typed⟩ := fits
  cases value with
  | nil type => exact .inl (congrArg Value.nil typed)
  | boolean payload => exact .inr ⟨payload, rfl⟩
  | _ => cases typed

/-- An integer is nil or a number. -/
theorem Fits.integer_cases (fits : value.Fits .integer) :
    value = .nil .integer ∨ ∃ payload, value = .integer payload := by
  obtain ⟨formed, typed⟩ := fits
  cases value with
  | nil type => exact .inl (congrArg Value.nil typed)
  | integer payload => exact .inr ⟨payload, rfl⟩
  | _ => cases typed

/-- A string is nil or a text. -/
theorem Fits.string_cases (fits : value.Fits .string) :
    value = .nil .string ∨ ∃ payload, value = .string payload := by
  obtain ⟨formed, typed⟩ := fits
  cases value with
  | nil type => exact .inl (congrArg Value.nil typed)
  | string payload => exact .inr ⟨payload, rfl⟩
  | _ => cases typed

/-- A regular expression is nil or a matcher. -/
theorem Fits.regexp_cases (fits : value.Fits .regexp) :
    value = .nil .regexp ∨ ∃ payload, value = .regexp payload := by
  obtain ⟨formed, typed⟩ := fits
  cases value with
  | nil type => exact .inl (congrArg Value.nil typed)
  | regexp payload => exact .inr ⟨payload, rfl⟩
  | _ => cases typed

/-- A list is nil or has items that fit its unit type. -/
theorem Fits.list_cases (fits : value.Fits (.list unit)) :
    value = .nil (.list unit) ∨
      ∃ items, value = .list unit items ∧ ∀ item ∈ items, item.Fits unit := by
  obtain ⟨formed, typed⟩ := fits
  cases value with
  | nil type => exact .inl (congrArg Value.nil typed)
  | list other items =>
    obtain rfl : other = unit := Signature.list.inj typed
    cases formed with
    | list _ _ inside => exact .inr ⟨items, rfl, allOf_iff.mp inside⟩
  | _ => cases typed

/-- A map is nil or has entries with values that fit its unit type. -/
theorem Fits.map_cases (fits : value.Fits (.map unit)) :
    value = .nil (.map unit) ∨
      ∃ entries, value = .map unit entries ∧ EntriesOf unit entries := by
  obtain ⟨formed, typed⟩ := fits
  cases value with
  | nil type => exact .inl (congrArg Value.nil typed)
  | map other entries =>
    obtain rfl : other = unit := Signature.map.inj typed
    cases formed with
    | map _ _ inside ordered => exact .inr ⟨entries, rfl, inside⟩
  | _ => cases typed

/-! ## Views and comparisons -/

/-- A boolean has a truth value or is nil. -/
theorem Fits.asBoolean (fits : value.Fits .boolean) : ∃ truth, value.asBoolean = .ok truth := by
  rcases fits.boolean_cases with rfl | ⟨payload, rfl⟩
  · exact ⟨none, rfl⟩
  · exact ⟨some payload, rfl⟩

/-- A list has items that fit its unit type or is nil. -/
theorem Fits.asItems (fits : value.Fits (.list unit)) :
    ∃ items, value.asItems = .ok items ∧ ∀ item ∈ items.getD [], item.Fits unit := by
  rcases fits.list_cases with rfl | ⟨items, rfl, inside⟩
  · exact ⟨none, rfl, fun _ impossible => absurd impossible List.not_mem_nil⟩
  · exact ⟨some items, rfl, inside⟩

/-- The order of two integers that are there decides every test of it. -/
theorem ordered_integer (test : Int64 → Bool) (left right : Int64) :
    ordered test (.integer left) (.integer right) = .ok (.boolean (test (order left right))) := rfl

/-- Operands of the types that a comparison is made for have an answer, which is a
boolean.

Equality answers for all values. The other comparisons answer nil for nil; what
is left are two numbers, or a text and a matcher. -/
theorem compared_fits {comparison : Comparison} {left right : Value} {ofLeft ofRight : Signature}
    (accepts : comparison.Accepts ofLeft ofRight) (fitsLeft : left.Fits ofLeft)
    (fitsRight : right.Fits ofRight) :
    ∃ result, compared comparison left right = .ok result ∧ result.Fits .boolean := by
  have numbers (test : Int64 → Bool) (integerLeft : left.Fits .integer)
      (integerRight : right.Fits .integer) :
      ∃ result, (if left.isNil || right.isNil then .ok (.nil .boolean)
        else ordered test left right) = .ok result ∧ result.Fits .boolean := by
    rcases integerLeft.integer_cases with rfl | ⟨first, rfl⟩
    · exact ⟨.nil .boolean, rfl, fits_nil _⟩
    · rcases integerRight.integer_cases with rfl | ⟨second, rfl⟩
      · exact ⟨.nil .boolean, rfl, fits_nil _⟩
      · exact ⟨_, ordered_integer test first second, fits_boolean _⟩
  cases comparison with
  | equal => exact ⟨_, rfl, fits_boolean _⟩
  | notEqual => exact ⟨_, rfl, fits_boolean _⟩
  | less =>
    obtain ⟨rfl, rfl⟩ := accepts
    exact numbers (· < 0) fitsLeft fitsRight
  | lessEqual =>
    obtain ⟨rfl, rfl⟩ := accepts
    exact numbers (· ≤ 0) fitsLeft fitsRight
  | greater =>
    obtain ⟨rfl, rfl⟩ := accepts
    exact numbers (0 < ·) fitsLeft fitsRight
  | greaterEqual =>
    obtain ⟨rfl, rfl⟩ := accepts
    exact numbers (0 ≤ ·) fitsLeft fitsRight
  | matching =>
    obtain ⟨rfl, rfl⟩ := accepts
    rcases fitsLeft.string_cases with rfl | ⟨text, rfl⟩
    · exact ⟨.nil .boolean, rfl, fits_nil _⟩
    · rcases fitsRight.regexp_cases with rfl | ⟨matcher, rfl⟩
      · exact ⟨.nil .boolean, rfl, fits_nil _⟩
      · exact ⟨.boolean (matcher.isMatch text), rfl, fits_boolean _⟩

/-! ## Navigation and search -/

/-- A map gives a value of its unit type under every name. -/
theorem Fits.reference_named (fits : value.Fits (.map unit)) (name : String) :
    ∃ result, value.reference (.named name) = .ok result ∧ result.Fits unit := by
  rcases fits.map_cases with rfl | ⟨entries, rfl, inside⟩
  · exact ⟨.nil unit, rfl, fits_nil unit⟩
  · cases found : entries.lookup name with
    | none => exact ⟨.nil unit, by simp [reference, found], fits_nil unit⟩
    | some values =>
      obtain ⟨occupied, each⟩ := inside.lookup found
      cases values with
      | nil => exact absurd rfl occupied
      | cons first rest =>
        exact ⟨first, by simp [reference, found], each first List.mem_cons_self⟩

/-- A map gives nothing under an index. -/
theorem Fits.reference_indexed (fits : value.Fits (.map unit)) (index : Int64) :
    value.reference (.indexed index) = .error (.invalidKey (.indexed index)) := by
  rcases fits.map_cases with rfl | ⟨entries, rfl, inside⟩ <;> rfl

/-- Lists and maps have no natural string, and neither have their nils. -/
theorem naturalString_of_composite {value : Value} (composite : value.base.isComposite = true) :
    value.naturalString = .error (.unsupported .naturalString value.base) := by
  cases value with
  | nil type =>
    cases type with
    | list unit | map unit => rfl
    | _ => cases composite
  | list unit items | map unit entries => rfl
  | _ => cases composite

/-- Everything else has a natural string or is nil. -/
theorem naturalString_of_simple {value : Value} (simple : value.base.isComposite = false) :
    ∃ text, value.naturalString = .ok text := by
  cases value with
  | nil type =>
    cases type with
    | list unit | map unit => cases simple
    | _ => exact ⟨none, rfl⟩
  | boolean payload =>
    cases payload with
    | false => exact ⟨some "false", rfl⟩
    | true => exact ⟨some "true", rfl⟩
  | integer payload | string payload | regexp payload => exact ⟨some _, rfl⟩
  | list unit items | map unit entries => cases simple

/-- Scalars are neither lists nor maps. -/
theorem isComposite_of_isScalar {value : Value} (scalar : value.signature.isScalar = true) :
    value.base.isComposite = false := by
  rw [base_eq]
  cases typed : value.signature with
  | list unit | map unit =>
    rw [typed] at scalar
    cases scalar
  | _ => rfl

/-- A scalar has a natural string or is nil. -/
theorem Fits.naturalString {type : Signature} (fits : value.Fits type)
    (scalar : type.isScalar = true) : ∃ text, value.naturalString = .ok text :=
  naturalString_of_simple (isComposite_of_isScalar (fits.typed ▸ scalar))

/-- Scalars can be searched for a natural string; what matches is among them. -/
theorem matchingItems_ok (key : Value) (needle : String) {items : List Value}
    (scalar : unit.isScalar = true) (each : ∀ item ∈ items, item.Fits unit) :
    ∃ found, matchingItems key needle items = .ok found ∧ ∀ value ∈ found, value.Fits unit := by
  induction items with
  | nil => exact ⟨[], rfl, fun _ impossible => absurd impossible List.not_mem_nil⟩
  | cons item rest inductionHypothesis =>
    rw [List.forall_mem_cons] at each
    obtain ⟨found, searched, fits⟩ := inductionHypothesis each.2
    obtain ⟨text, written⟩ := each.1.naturalString scalar
    by_cases eligible : item.isFoundBy key = true
    · refine ⟨if text = some needle then item :: found else found, ?_, ?_⟩
      · simp only [matchingItems, eligible, if_true, written, searched, bind, Except.bind]
      · split
        · exact List.forall_mem_cons.mpr ⟨each.1, fits⟩
        · exact fits
    · exact ⟨found, by simp only [matchingItems, eligible, searched]; rfl, fits⟩

/-- Whether values of one type can be searched for in values of another, and the
unit type of these. -/
structure Searches (key collection unit : Signature) : Prop where
  key : key = .nil ∨ key.isScalar = true
  collection : collection = .list unit ∧ unit.isScalar = true ∨ collection = .map unit

/-- The unit type of what is searched. -/
theorem Searches.unit?_eq {key collection : Signature} (searches : Searches key collection unit)
    (fits : value.Fits collection) : value.unit? = some unit := by
  rw [Value.unit?_eq, fits.typed]
  rcases searches.collection with ⟨rfl, _⟩ | rfl <;> rfl

/-- What is found in a collection that is there, for a key that is there, fits the
unit type of the collection.

A key that is there is a scalar, for the untyped nil is never there. In a list it
is compared with the natural strings of scalars, and in a map it is a name. -/
theorem searchAll_fits {key collection : Value} {ofKey ofCollection : Signature}
    (searches : Searches ofKey ofCollection unit) (fitsKey : key.Fits ofKey)
    (fitsCollection : collection.Fits ofCollection) (present : key.isNil = false) :
    ∃ found, collection.searchAll key = .ok found ∧ ∀ value ∈ found, value.Fits unit := by
  have written : ∃ text, key.naturalString = .ok text := by
    rcases searches.key with rfl | scalar
    · rw [fitsKey.nil_eq] at present
      cases present
    · exact fitsKey.naturalString scalar
  obtain ⟨text, written⟩ := written
  have vacuous : ∀ value ∈ ([] : List Value), value.Fits unit :=
    fun _ impossible => absurd impossible List.not_mem_nil
  rcases searches.collection with ⟨rfl, scalar⟩ | rfl
  · rcases fitsCollection.list_cases with rfl | ⟨items, rfl, inside⟩
    · exact ⟨[], by simp only [searchAll, written]; rfl, vacuous⟩
    · cases text with
      | none => exact ⟨[], by simp only [searchAll, written]; rfl, vacuous⟩
      | some needle =>
        obtain ⟨found, searched, fits⟩ := matchingItems_ok key needle scalar inside
        exact ⟨found, by simp only [searchAll, written]; exact searched, fits⟩
  · rcases fitsCollection.map_cases with rfl | ⟨entries, rfl, inside⟩
    · exact ⟨[], by simp only [searchAll, written]; rfl, vacuous⟩
    · cases text with
      | none => exact ⟨[], by simp only [searchAll, written]; rfl, vacuous⟩
      | some needle =>
        refine ⟨(entries.lookup needle).getD [], by simp only [searchAll, written]; rfl, ?_⟩
        cases found : entries.lookup needle with
        | none => exact vacuous
        | some values => exact (inside.lookup found).2

/-- Items that fit the unit type make a list. -/
theorem ofItems_ok {items : List Value} (each : ∀ item ∈ items, item.Fits unit) :
    ofItems unit items = .ok (.list unit items) := by
  have clean : items.find? (fun item => !item.hasSignature unit) = none := by
    rw [List.find?_eq_none]
    intro item member
    simp [hasSignature_eq, (each item member).typed]
  simp only [ofItems, clean]

/-- What a search makes of what it found fits the type that was promised for it. -/
theorem searched_fits (kind : SearchKind) {collection : Value} {found : List Value}
    (ofUnit : collection.unit? = some unit) (each : ∀ value ∈ found, value.Fits unit) :
    ∃ outcome, searched kind collection found = .ok outcome ∧
      ∀ result, outcome = some result → result.Fits (Build.searchType kind unit) := by
  cases kind with
  | exist =>
    refine ⟨_, rfl, fun result same => ?_⟩
    obtain rfl := Option.some.inj same
    exact fits_boolean _
  | find =>
    cases found with
    | nil => exact ⟨none, rfl, fun _ impossible => nomatch impossible⟩
    | cons first rest =>
      refine ⟨_, rfl, fun result same => ?_⟩
      obtain rfl := Option.some.inj same
      exact each first List.mem_cons_self
  | findAll =>
    cases found with
    | nil => exact ⟨none, rfl, fun _ impossible => nomatch impossible⟩
    | cons first rest =>
      refine ⟨some (.list unit (first :: rest)), ?_, fun result same => ?_⟩
      · simp only [searched, ofUnit, Option.getD_some, ofItems_ok each]
        rfl
      · obtain rfl := Option.some.inj same
        exact ⟨.list unit _ (allOf_iff.mpr each), rfl⟩

end Value

end RuleTree
