import RuleTree.Proofs.NaturalText
import RuleTree.Proofs.WireEquality

/-!
# Searching lists of scalars

A search goes through a list and compares natural strings, not values. That it finds what
is equal to the key rests on two things: an item is passed over unless its type may hold
the key, and within one type the natural string tells scalars apart. Texts and patterns
are the exception that is meant. They are of two types and are found by each other's text.

What a search may be asked of depends on types alone. It is refused by what is neither a
list nor a map and for keys that are, whatever the values, nils included.
-/

namespace RuleTree.Value

/-- The items of a list. A nil list has none. -/
def items : Value → List Value
  | .list _ items => items
  | _ => []

/-- The text of a string or of a regular expression that is there. -/
def text? : Value → Option String
  | .string payload => some payload
  | .regexp payload => some payload.source
  | _ => none

/-- One type is that of texts and the other that of patterns. -/
def TextAndPattern (first second : Signature) : Prop :=
  first = .string ∧ second = .regexp ∨ first = .regexp ∧ second = .string

/-- Whether a search comes upon the item for a key with that natural string. -/
def isHitBy (item key : Value) (needle : String) : Bool :=
  item.isFoundBy key && item.naturalString.toOption == some (some needle)

variable {collection key item : Value} {needle : String} {unit : Signature}

/-- An item is hit if its type may hold the key and its natural string is that of the key. -/
theorem isHitBy_iff : item.isHitBy key needle = true ↔
    item.isFoundBy key = true ∧ item.naturalString = .ok (some needle) := by
  cases written : item.naturalString <;> simp [isHitBy, written, Except.toOption]

/-- What may be found by a key that is no list and no map is neither. -/
theorem isComposite_of_isFoundBy (eligible : item.isFoundBy key = true)
    (simple : key.base.isComposite = false) : item.base.isComposite = false := by
  simp only [isFoundBy, sameType_eq, isTextual, hasSignature_eq, Bool.or_eq_true,
    Bool.and_eq_true, beq_iff_eq] at eligible
  rcases eligible with same | ⟨text | pattern, _⟩
  · rw [base_eq, same, ← base_eq]
    exact simple
  · rw [base_eq, text]
    rfl
  · rw [base_eq, pattern]
    rfl

/-- A search for a natural string selects the items that are hit, in their order. -/
theorem matchingItems_eq_filter {items : List Value} (simple : key.base.isComposite = false) :
    matchingItems key needle items = .ok (items.filter (·.isHitBy key needle)) := by
  induction items with
  | nil => rfl
  | cons item rest inductionHypothesis =>
    rw [matchingItems, inductionHypothesis]
    by_cases eligible : item.isFoundBy key = true
    · obtain ⟨text, written⟩ :=
        naturalString_of_simple (isComposite_of_isFoundBy eligible simple)
      have hit : item.isHitBy key needle = true ↔ text = some needle := by
        rw [isHitBy_iff, written]
        simp [eligible]
      rw [if_pos eligible, written, List.filter_cons]
      by_cases same : text = some needle
      · simp [bind, Except.bind, hit.mpr same, same]
      · simp [bind, Except.bind, hit, same]
    · have missed : item.isHitBy key needle = false := by
        simp [isHitBy, eligible]
      rw [if_neg eligible, List.filter_cons, missed]
      rfl

/-- A key with a natural string is neither a list nor a map. -/
theorem isComposite_of_naturalString (written : key.naturalString = .ok (some needle)) :
    key.base.isComposite = false := by
  cases composite : key.base.isComposite with
  | false => rfl
  | true => cases written.symm.trans (naturalString_of_composite composite)

/-- A list is searched for a key that is there by selecting what the key hits. -/
theorem searchAll_eq_filter (fits : collection.Fits (.list unit))
    (written : key.naturalString = .ok (some needle)) :
    collection.searchAll key = .ok (collection.items.filter (·.isHitBy key needle)) := by
  rcases fits.list_cases with rfl | ⟨items, rfl, _⟩
  · rw [searchAll, written]
    rfl
  · rw [searchAll, written]
    exact matchingItems_eq_filter (isComposite_of_naturalString written)

/-- A search of a list for what has no natural string finds nothing. -/
theorem searchAll_eq_nil (fits : collection.Fits (.list unit))
    (absent : key.naturalString = .ok none) : collection.searchAll key = .ok [] := by
  rcases fits.list_cases with rfl | ⟨items, rfl, _⟩ <;> rw [searchAll, absent] <;> rfl

/-- A nil that is no list and no map has no natural string. -/
theorem naturalString_of_nil {value : Value} (absent : value.isNil = true)
    (simple : value.base.isComposite = false) : value.naturalString = .ok none := by
  obtain ⟨text, written⟩ := naturalString_of_simple simple
  cases text with
  | none => exact written
  | some text =>
    rw [isNil_of_naturalString written] at absent
    cases absent

/-- A key hits what is equal to it, among values of its type. -/
theorem isHitBy_eq_equal (written : key.naturalString = .ok (some needle))
    (typed : item.signature = key.signature) : item.isHitBy key needle = item.equal key := by
  rw [Bool.eq_iff_iff, isHitBy_iff, equal_iff_eq]
  constructor
  · intro ⟨_, sameText⟩
    exact eq_of_naturalString typed sameText written
  · rintro rfl
    exact ⟨by simp [isFoundBy, sameType_eq], written⟩

/-- The natural string of a text or a pattern is its text. -/
theorem naturalString_iff_text? (textual : item.isTextual = true) :
    item.naturalString = .ok (some needle) ↔ item.text? = some needle := by
  cases item with
  | string payload | regexp payload => simp [naturalString, text?]
  | nil type => cases type <;> simp [naturalString, text?, signature]
  | _ => cases textual

/-- What has a text is a text or a pattern. -/
theorem isTextual_of_text? (ofKey : key.text? = some needle) : key.isTextual = true := by
  cases key with
  | string payload | regexp payload => rfl
  | _ => cases ofKey

/-- A text or a pattern hits what has its text, among texts or patterns. -/
theorem isHitBy_eq_text (ofKey : key.text? = some needle) (textual : item.isTextual = true) :
    item.isHitBy key needle = (item.text? == some needle) := by
  have eligible : item.isFoundBy key = true := by
    simp [isFoundBy, textual, isTextual_of_text? ofKey]
  rw [Bool.eq_iff_iff, isHitBy_iff, naturalString_iff_text? textual, beq_iff_eq]
  exact and_iff_right eligible

/-- An item of another type is not found, unless the two are a text and a pattern. -/
theorem isFoundBy_eq_false (other : key.signature ≠ item.signature)
    (unrelated : ¬TextAndPattern key.signature item.signature) : item.isFoundBy key = false := by
  rw [Bool.eq_false_iff]
  intro eligible
  simp only [isFoundBy, sameType_eq, isTextual, hasSignature_eq, Bool.or_eq_true,
    Bool.and_eq_true, beq_iff_eq] at eligible
  rcases eligible with same | ⟨text | pattern, text' | pattern'⟩
  · exact other same.symm
  · exact other (text'.trans text.symm)
  · exact unrelated (.inr ⟨pattern', text⟩)
  · exact unrelated (.inl ⟨text', pattern⟩)
  · exact other (pattern'.trans pattern.symm)

/-! ## Whether a search is answered -/

/-- A list or a map answers every key that is neither. -/
theorem searchAll_ok (composite : collection.base.isComposite = true)
    (simple : key.base.isComposite = false) :
    ∃ found, collection.searchAll key = .ok found := by
  obtain ⟨text, written⟩ := naturalString_of_simple simple
  cases collection with
  | nil type =>
    cases type with
    | list unit | map unit => exact ⟨[], by simp only [searchAll, written]; rfl⟩
    | _ => cases composite
  | list unit items =>
    cases text with
    | none => exact ⟨[], by simp only [searchAll, written]; rfl⟩
    | some needle =>
      exact ⟨_, by simp only [searchAll, written]; exact matchingItems_eq_filter simple⟩
  | map unit entries =>
    cases text with
    | none => exact ⟨[], by simp only [searchAll, written]; rfl⟩
    | some needle => exact ⟨_, by simp only [searchAll, written]; rfl⟩
  | _ => cases composite

/-- What is neither a list nor a map cannot be searched. -/
theorem searchAll_of_simple (simple : collection.base.isComposite = false) :
    collection.searchAll key = .error (.unsupported .search collection.base) := by
  cases collection with
  | nil type =>
    cases type with
    | list unit | map unit => cases simple
    | _ => rfl
  | list unit items | map unit entries => cases simple
  | _ => rfl

/-- Lists and maps cannot be searched for. -/
theorem searchAll_of_compositeKey (composite : collection.base.isComposite = true)
    (ofKey : key.base.isComposite = true) :
    collection.searchAll key = .error (.unsupported .naturalString key.base) := by
  have refused := naturalString_of_composite ofKey
  cases collection with
  | nil type =>
    cases type with
    | list unit | map unit =>
      rw [searchAll, refused]
      rfl
    | _ => cases composite
  | list unit items | map unit entries =>
    rw [searchAll, refused]
    rfl
  | _ => cases composite

/-- A search is refused by what is neither a list nor a map, and for keys that are. -/
theorem searchAll_error_iff : (∃ error, collection.searchAll key = .error error) ↔
    collection.base.isComposite = false ∨ key.base.isComposite = true := by
  cases ofCollection : collection.base.isComposite with
  | false => simp [searchAll_of_simple ofCollection]
  | true =>
    cases ofKey : key.base.isComposite with
    | false =>
      obtain ⟨found, searched⟩ := searchAll_ok ofCollection ofKey
      simp [searched]
    | true => simp [searchAll_of_compositeKey ofCollection ofKey]

/-! ## What a search of a list finds -/

/-- The items of a list are of its unit type. -/
theorem Fits.signature_item (fits : collection.Fits (.list unit))
    (member : item ∈ collection.items) : item.signature = unit := by
  rcases fits.list_cases with rfl | ⟨items, rfl, inside⟩
  · cases member
  · exact (inside item member).typed

/-- A key of the unit type that is there finds the items equal to it. -/
theorem searchAll_eq_equal (fits : collection.Fits (.list unit)) (scalar : unit.isScalar = true)
    (typed : key.signature = unit) (present : key.isNil = false) :
    collection.searchAll key = .ok (collection.items.filter (·.equal key)) := by
  obtain ⟨needle, written⟩ := naturalString_of_present (typed ▸ scalar) present
  rw [searchAll_eq_filter fits written]
  refine congrArg _ (List.filter_congr fun item member => ?_)
  exact isHitBy_eq_equal written ((fits.signature_item member).trans typed.symm)

/-- A text finds the patterns of that text, and a pattern the texts that are its own. -/
theorem searchAll_eq_text (fits : collection.Fits (.list unit))
    (across : TextAndPattern key.signature unit) (ofKey : key.text? = some needle) :
    collection.searchAll key = .ok (collection.items.filter (·.text? == some needle)) := by
  have written := (naturalString_iff_text? (isTextual_of_text? ofKey)).mpr ofKey
  rw [searchAll_eq_filter fits written]
  refine congrArg _ (List.filter_congr fun item member => isHitBy_eq_text ofKey ?_)
  have textual : unit = .regexp ∨ unit = .string := across.imp (·.2) (·.2)
  simpa [isTextual, hasSignature_eq, fits.signature_item member] using textual.symm

/-- A scalar of another type finds nothing, unless the types are those of texts and patterns. -/
theorem searchAll_eq_nil_of_other (fits : collection.Fits (.list unit))
    (scalar : key.signature.isScalar = true) (other : key.signature ≠ unit)
    (unrelated : ¬TextAndPattern key.signature unit) : collection.searchAll key = .ok [] := by
  cases present : key.isNil with
  | true =>
    exact searchAll_eq_nil fits (naturalString_of_nil present (isComposite_of_isScalar scalar))
  | false =>
    obtain ⟨needle, written⟩ := naturalString_of_present scalar present
    rw [searchAll_eq_filter fits written, List.filter_eq_nil_iff.mpr]
    intro item member
    have typed := fits.signature_item member
    have ineligible : item.isFoundBy key = false :=
      isFoundBy_eq_false (typed ▸ other) (typed ▸ unrelated)
    simp [isHitBy, ineligible]

/-- What is found in a list is an item of it that is there. -/
theorem isNil_of_mem_searchAll {found : List Value} (fits : collection.Fits (.list unit))
    (searched : collection.searchAll key = .ok found) (member : item ∈ found) :
    item ∈ collection.items ∧ item.isNil = false := by
  cases simple : key.base.isComposite with
  | true =>
    obtain ⟨error, refused⟩ := searchAll_error_iff.mpr (.inr simple)
    cases searched.symm.trans refused
  | false =>
    obtain ⟨text, written⟩ := naturalString_of_simple simple
    cases text with
    | none =>
      rw [searchAll_eq_nil fits written] at searched
      cases searched
      cases member
    | some needle =>
      rw [searchAll_eq_filter fits written] at searched
      cases searched
      obtain ⟨inside, hit⟩ := List.mem_filter.mp member
      exact ⟨inside, isNil_of_naturalString (isHitBy_iff.mp hit).2⟩

/-- An item that is there is found by itself. -/
theorem searchAll_item (fits : collection.Fits (.list unit)) (scalar : unit.isScalar = true)
    (member : item ∈ collection.items) (present : item.isNil = false) :
    ∃ found, collection.searchAll item = .ok found ∧ item ∈ found :=
  ⟨_, searchAll_eq_equal fits scalar (fits.signature_item member) present,
    List.mem_filter.mpr ⟨member, equal_refl item⟩⟩

/-- A search of a list of scalars finds what is equal to the key.

For a key of the unit type that is there, these are the items equal to it, as often as they
are in the list and in its order. For a text among patterns or a pattern among texts they
are the items with the text of the key. A nil, of whatever type, finds nothing, and neither
does a scalar of another type. Nil items are never found, and an item that is there is
among what a search for it finds. A search fails exactly if what is searched is neither a
list nor a map, or if the key is one of them.

Proof: What a search selects is hit by the natural string of the key (`searchAll_eq_filter`).
Among values of one type that is equality (`isHitBy_eq_equal`), since the natural string of
a scalar belongs to one value of the type, and between texts and patterns it is having the
text (`isHitBy_eq_text`). -/
theorem searchAll_exact (fits : collection.Fits (.list unit)) (scalar : unit.isScalar = true) :
    (∀ key : Value, key.signature = unit → key.isNil = false →
      collection.searchAll key = .ok (collection.items.filter (·.equal key))) ∧
    (∀ key text, TextAndPattern key.signature unit → key.text? = some text →
      collection.searchAll key = .ok (collection.items.filter (·.text? == some text))) ∧
    (∀ key : Value, key.isNil = true → key.base.isComposite = false →
      collection.searchAll key = .ok []) ∧
    (∀ key : Value, key.signature.isScalar = true → key.signature ≠ unit →
      ¬TextAndPattern key.signature unit → collection.searchAll key = .ok []) ∧
    (∀ key found, collection.searchAll key = .ok found →
      ∀ item ∈ found, item ∈ collection.items ∧ item.isNil = false) ∧
    (∀ item ∈ collection.items, item.isNil = false →
      ∃ found, collection.searchAll item = .ok found ∧ item ∈ found) ∧
    (∀ receiver key : Value, (∃ error, receiver.searchAll key = .error error) ↔
      receiver.base.isComposite = false ∨ key.base.isComposite = true) := by
  refine ⟨?ofUnit, ?ofText, ?ofNil, ?ofOther, ?neverNil, ?byItself, ?refusal⟩
  case ofUnit =>
    intro key typed present
    exact searchAll_eq_equal fits scalar typed present
  case ofText =>
    intro key text across ofKey
    exact searchAll_eq_text fits across ofKey
  case ofNil =>
    intro key absent simple
    exact searchAll_eq_nil fits (naturalString_of_nil absent simple)
  case ofOther =>
    intro key keyScalar other unrelated
    exact searchAll_eq_nil_of_other fits keyScalar other unrelated
  case neverNil =>
    intro key found searched item member
    exact isNil_of_mem_searchAll fits searched member
  case byItself =>
    intro item member present
    exact searchAll_item fits scalar member present
  case refusal =>
    intro receiver key
    exact searchAll_error_iff

/-- In a list of texts, a text that is there twice is found twice and the nil among them is
not. The integer with the same natural string is not found. -/
theorem searchAll_exact_repeatedText :
    (list .string [.string "1", .nil .string, .string "2", .string "1"]).Fits (.list .string) ∧
      Signature.string.isScalar = true ∧
      (list .string [.string "1", .nil .string, .string "2", .string "1"]).searchAll (.string "1") =
        .ok [.string "1", .string "1"] ∧
      (list .string [.string "1", .nil .string, .string "2", .string "1"]).searchAll (.integer 1) =
        .ok [] := by
  have fits : (list .string [.string "1", .nil .string, .string "2", .string "1"]).Fits
      (.list .string) := by
    refine ⟨.list _ _ (allOf_iff.mpr ?_), rfl⟩
    intro value member
    simp only [List.mem_cons, List.not_mem_nil, or_false] at member
    rcases member with rfl | rfl | rfl | rfl
    · exact ⟨.string _, rfl⟩
    · exact ⟨.nil _, rfl⟩
    · exact ⟨.string _, rfl⟩
    · exact ⟨.string _, rfl⟩
  obtain ⟨ofUnit, _, _, ofOther, _⟩ := searchAll_exact fits (by decide)
  refine ⟨fits, by decide, ?_, ofOther (.integer 1) (by decide) (by decide) ?_⟩
  · rw [ofUnit (.string "1") rfl rfl]
    rfl
  · rintro (⟨impossible, _⟩ | ⟨impossible, _⟩) <;> cases impossible

end RuleTree.Value
