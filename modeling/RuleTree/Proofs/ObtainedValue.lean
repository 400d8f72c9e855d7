import RuleTree.Value.Inference
import RuleTree.Proofs.OrderedReading
import RuleTree.Proofs.WireGrammar

/-!
# Values that can be obtained

A value is obtained by the operations that make values: from a datum or a type, from
items or entries, by decoding, from untyped data, from text, or out of another value
by search, reference or comparison. Whatever way it was obtained, it is well formed at
every depth.

Making a list or a map looks at the types of what is put into it and no deeper, so the
law is about all operations at once: what they are given was obtained before and is
well formed by induction. Each operation has its own statement, which says that it
keeps values well formed; `Obtained` only says how operations may be combined.
-/

namespace RuleTree.Value

/-! ## Values out of a value -/

/-- What a key finds among items is one of them. -/
theorem matchingItems_subset {key : Value} {needle : String} {items found : List Value}
    (searched : matchingItems key needle items = .ok found) : ∀ value ∈ found, value ∈ items := by
  induction items generalizing found with
  | nil =>
    cases searched
    exact fun _ impossible => impossible
  | cons item rest inductionHypothesis =>
    unfold matchingItems at searched
    split at searched
    · obtain ⟨text, _, searched⟩ := bind_ok searched
      obtain ⟨others, later, searched⟩ := bind_ok searched
      have inRest := inductionHypothesis later
      cases searched
      intro value member
      split at member
      · rcases List.mem_cons.mp member with rfl | member
        · exact List.mem_cons_self
        · exact List.mem_cons_of_mem _ (inRest value member)
      · exact List.mem_cons_of_mem _ (inRest value member)
    · exact fun value member => List.mem_cons_of_mem _ (inductionHypothesis searched value member)

/-- What a search finds in a well-formed collection fits its unit type. -/
theorem searchAll_sound {collection key : Value} (formed : collection.WellFormed)
    {found : List Value} (searched : collection.searchAll key = .ok found) :
    ∀ value ∈ found, ∃ unit, collection.unit? = some unit ∧ value.Fits unit := by
  have nothing : found = [] →
      ∀ value ∈ found, ∃ unit, collection.unit? = some unit ∧ value.Fits unit := by
    rintro rfl value impossible
    exact absurd impossible List.not_mem_nil
  cases formed with
  | list unit items inside =>
    have each := allOf_iff.mp inside
    obtain ⟨text, _, searched⟩ := bind_ok searched
    cases text with
    | none => exact nothing (Except.ok.inj searched).symm
    | some needle =>
      intro value member
      exact ⟨unit, rfl, each value (matchingItems_subset searched value member)⟩
  | map unit entries inside =>
    obtain ⟨text, _, searched⟩ := bind_ok searched
    cases text with
    | none => exact nothing (Except.ok.inj searched).symm
    | some needle =>
      obtain rfl := Except.ok.inj searched
      cases held : entries.lookup needle with
      | none => exact List.forall_mem_nil _
      | some values =>
        intro value member
        exact ⟨unit, rfl, (inside.lookup held).2 value member⟩
  | nil type =>
    cases type with
    | list unit | map unit =>
      obtain ⟨_, _, searched⟩ := bind_ok searched
      exact nothing (Except.ok.inj searched).symm
    | _ => cases searched
  | _ => cases searched

/-- A reference into a well-formed value gives one that fits the unit type. -/
theorem reference_sound {container : Value} (formed : container.WellFormed) {key : Key}
    {value : Value} (referred : container.reference key = .ok value) :
    ∃ unit, container.unit? = some unit ∧ value.Fits unit := by
  have named : ∀ unit, container.Fits (.map unit) →
      ∃ unit, container.unit? = some unit ∧ value.Fits unit := by
    intro unit fits
    have ofUnit : container.unit? = some unit := by rw [unit?_eq, fits.typed]; rfl
    cases key with
    | named name =>
      obtain ⟨result, same, fitsUnit⟩ := fits.reference_named name
      obtain rfl : result = value := Except.ok.inj (same.symm.trans referred)
      exact ⟨unit, ofUnit, fitsUnit⟩
    | indexed index =>
      rw [fits.reference_indexed] at referred
      cases referred
  have fitsOwn : container.Fits container.signature := ⟨formed, rfl⟩
  cases container with
  | map unit entries => exact named unit fitsOwn
  | nil type =>
    cases type with
    | map unit => exact named unit fitsOwn
    | _ => cases referred
  | _ => cases referred

/-- The result of a comparison is well formed. -/
theorem compare_sound {left right value : Value} (compared : left.compare right = .ok value) :
    value.WellFormed := by
  unfold compare at compared
  split at compared
  · split at compared
    · cases compared
      exact .integer _
    · split at compared
      · cases compared
        exact .nil _
      · cases compared
  · cases compared

/-! ## Values from outside -/

/-- The value that a base type starts from is well formed. -/
theorem initial?_sound {base : BaseType} {value : Value} (known : initial? base = some value) :
    value.WellFormed := by
  cases base with
  | boolean =>
    cases known
    exact .boolean false
  | integer =>
    cases known
    exact .integer 0
  | string =>
    cases known
    exact .string ""
  | _ => cases known

/-- What is parsed from text is well formed. -/
theorem parse_sound {type : Signature} {text : String} {value : Value}
    (parsed : parse type text = .ok value) : value.WellFormed := by
  unfold parse at parsed
  split at parsed
  · cases parsed
    exact .nil _
  · split at parsed
    · cases parsed
      exact .boolean true
    split at parsed
    · cases parsed
      exact .boolean false
    · cases parsed
  · split at parsed
    · cases parsed
      exact .integer _
    · cases parsed
  · cases parsed
    exact .string _
  · split at parsed
    · cases parsed
      exact .regexp _
    · cases parsed
  · cases parsed
  · cases parsed

/-- The values of elements are well formed if each of them is. -/
theorem ofElements_sound {elements : List Json} {items : List Value}
    (each : ∀ element ∈ elements, ∀ value, ofJson element = .ok value → value.WellFormed)
    (read : ofElements elements = .ok items) : ∀ item ∈ items, item.WellFormed := by
  induction elements generalizing items with
  | nil =>
    cases read
    exact List.forall_mem_nil _
  | cons element rest inductionHypothesis =>
    obtain ⟨here, others⟩ := List.forall_mem_cons.mp each
    obtain ⟨value, first, read⟩ := bind_ok read
    obtain ⟨values, later, read⟩ := bind_ok read
    cases read
    exact List.forall_mem_cons.mpr ⟨here value first, inductionHypothesis others later⟩

/-- Entries among which those of members are inserted stay in order, and the values in them
are well formed, if the values of all members are. -/
theorem ofMembers_sound {members : List (String × Json)}
    {held entries : List (String × List Value)}
    (each : ∀ member ∈ members, ∀ value, ofJson member.2 = .ok value → value.WellFormed)
    (ordered : Entries.Ascending (held.map (·.1)))
    (formed : ∀ entry ∈ held, ∀ value ∈ entry.2, value.WellFormed)
    (read : ofMembers held members = .ok entries) :
    (∀ entry ∈ entries, ∀ value ∈ entry.2, value.WellFormed) ∧
      Entries.Ascending (entries.map (·.1)) := by
  induction members generalizing held with
  | nil =>
    cases read
    exact ⟨formed, ordered⟩
  | cons member rest inductionHypothesis =>
    obtain ⟨here, others⟩ := List.forall_mem_cons.mp each
    obtain ⟨value, first, read⟩ := bind_ok read
    refine inductionHypothesis others (ordered.insert member.1 [value]) ?_ read
    intro entry inserted
    rcases Entries.mem_insert inserted with rfl | old
    · exact List.forall_mem_singleton.mpr (here value first)
    · exact formed entry old

/-- The value of untyped data is well formed.

Proof: by induction on the data. Items and entries are well formed by hypothesis, insertion
has put the entries in order, and making the list or map checks that they share the type
found for them. -/
theorem ofJson_sound {json : Json} {value : Value} (read : ofJson json = .ok value) :
    value.WellFormed := by
  induction json generalizing value with
  | null =>
    cases read
    exact .nil _
  | bool truth =>
    cases read
    exact .boolean truth
  | number number =>
    simp only [ofJson] at read
    split at read
    · cases read
      exact .integer _
    · cases read
  | string text =>
    cases read
    exact .string text
  | array items inductionHypothesis =>
    obtain ⟨values, elements, read⟩ := bind_ok read
    obtain ⟨unit, _, read⟩ := bind_ok read
    have formed := ofElements_sound (fun item member value => inductionHypothesis item member)
      elements
    exact (ofItems_fits formed (mapError_ok_iff.mp read)).formed
  | object members inductionHypothesis =>
    obtain ⟨entries, ofMembers, read⟩ := bind_ok read
    obtain ⟨unit, _, read⟩ := bind_ok read
    have empty : Entries.Ascending (([] : List (String × List Value)).map (·.1)) := trivial
    obtain ⟨formed, ordered⟩ := ofMembers_sound (fun member isMember value =>
      inductionHypothesis member isMember) empty (List.forall_mem_nil _) ofMembers
    exact (ofEntries_fits formed ordered (mapError_ok_iff.mp read)).formed

/-! ## All operations together -/

/-- The values that operations make, out of data or out of values obtained before. JSON
values and entries are given with their names in order. -/
inductive Obtained : Value → Prop
  | nil (type : Signature) : Obtained (.nil type)
  | boolean (payload : Bool) : Obtained (.boolean payload)
  | integer (payload : Int64) : Obtained (.integer payload)
  | string (payload : String) : Obtained (.string payload)
  | regexp (payload : Matcher) : Obtained (.regexp payload)
  | initial {base : BaseType} {value : Value} (known : initial? base = some value) :
      Obtained value
  | list {unit : Signature} {items : List Value} {value : Value}
      (obtained : ∀ item ∈ items, Obtained item) (made : ofItems unit items = .ok value) :
      Obtained value
  | map {unit : Signature} {entries : List (String × List Value)} {value : Value}
      (obtained : ∀ entry ∈ entries, ∀ held ∈ entry.2, Obtained held)
      (ascending : Entries.Ascending (entries.map (·.1)))
      (made : ofEntries unit entries = .ok value) : Obtained value
  | payload {type : Signature} {json : Json} {value : Value} (ordered : json.Ordered)
      (decoded : Wire.decode type json = .ok value) : Obtained value
  | encoded {json : Json} {value : Value} (ordered : json.Ordered)
      (decoded : Wire.decodeValue json = .ok value) : Obtained value
  | encodedText {text : String} {value : Value} (decoded : Wire.decodeText text = .ok value) :
      Obtained value
  | untyped {json : Json} {value : Value} (ordered : json.Ordered)
      (read : ofJson json = .ok value) : Obtained value
  | parsed {type : Signature} {text : String} {value : Value}
      (read : parse type text = .ok value) : Obtained value
  | found {collection key value : Value} {all : List Value} (obtained : Obtained collection)
      (searched : collection.searchAll key = .ok all) (member : value ∈ all) : Obtained value
  | referred {container value : Value} {key : Key} (obtained : Obtained container)
      (read : container.reference key = .ok value) : Obtained value
  | compared {left right value : Value} (made : left.compare right = .ok value) : Obtained value

/-- What is obtained is well formed.

Proof: by induction on how it was obtained, with the statement of each operation. -/
theorem Obtained.wellFormed {value : Value} (obtained : Obtained value) : value.WellFormed := by
  induction obtained with
  | nil type => exact .nil type
  | boolean payload => exact .boolean payload
  | integer payload => exact .integer payload
  | string payload => exact .string payload
  | regexp payload => exact .regexp payload
  | initial known => exact initial?_sound known
  | list _ made formed => exact (ofItems_fits formed made).formed
  | map _ ascending made formed => exact (ofEntries_fits formed ascending made).formed
  | payload ordered decoded =>
    exact ((Wire.decoding_exact ordered).payload.sound _ _ decoded).2.formed
  | encoded ordered decoded => exact ((Wire.decoding_exact ordered).element.sound _ decoded).2
  | encodedText decoded =>
    obtain ⟨type, payload, ordered, decoded⟩ := Wire.decodeText_ok decoded
    exact ((Wire.decoding_exact ordered).payload.sound type _ decoded).2.formed
  | untyped _ read => exact ofJson_sound read
  | parsed read => exact parse_sound read
  | found _ searched member formed =>
    obtain ⟨unit, _, fits⟩ := searchAll_sound formed searched _ member
    exact fits.formed
  | referred _ read formed =>
    obtain ⟨unit, _, fits⟩ := reference_sound formed read
    exact fits.formed
  | compared made => exact compare_sound made

/-- Every value that can be obtained is well formed. A list is made exactly of items of
its unit type, which it keeps in their order; a map is made exactly of entries whose
values are of its unit type, and keeps those that have values. -/
theorem obtained_wellFormed :
    (∀ value, Obtained value → value.WellFormed) ∧
      (∀ unit items, (∃ value, ofItems unit items = .ok value) ↔
        ∀ item ∈ items, item.signature = unit) ∧
      (∀ unit items value, ofItems unit items = .ok value → value = .list unit items) ∧
      (∀ unit entries, (∃ value, ofEntries unit entries = .ok value) ↔
        ∀ entry ∈ entries, ∀ held ∈ entry.2, held.signature = unit) ∧
      ∀ unit entries value, ofEntries unit entries = .ok value →
        value = .map unit (entries.filter fun entry => !entry.2.isEmpty) := by
  refine ⟨fun value obtained => obtained.wellFormed, fun unit items => ?_,
    fun unit items value made => (ofItems_ok_iff.mp made).2, fun unit entries => ?_,
    fun unit entries value made => (ofEntries_ok_iff.mp made).2⟩
  · exact ⟨fun ⟨value, made⟩ => (ofItems_ok_iff.mp made).1,
      fun typed => ⟨_, ofItems_ok_iff.mpr ⟨typed, rfl⟩⟩⟩
  · exact ⟨fun ⟨value, made⟩ => (ofEntries_ok_iff.mp made).1,
      fun typed => ⟨_, ofEntries_ok_iff.mpr ⟨typed, rfl⟩⟩⟩

/-- Untyped data with two numbers under one name. -/
def numbersUnderName : Json := .object [("numbers", .array [.integer 1, .integer 2])]

/-- The list that is read from the data and referred to, put into a list again next to an
absent one. -/
theorem obtained_wellFormed_numbers :
    numbersUnderName.Ordered ∧
      ofJson numbersUnderName =
        .ok (.map (.list .integer) [("numbers", [.list .integer [.integer 1, .integer 2]])]) ∧
      (Value.list (.list .integer)
        [.list .integer [.integer 1, .integer 2], .nil (.list .integer)]).WellFormed := by
  have ordered : numbersUnderName.Ordered :=
    .object _ (List.forall_mem_singleton.mpr (.array _
      (List.forall_mem_cons.mpr ⟨.number _, List.forall_mem_singleton.mpr (.number _)⟩))) trivial
  have read : ofJson numbersUnderName =
      .ok (.map (.list .integer) [("numbers", [.list .integer [.integer 1, .integer 2]])]) := by
    have one : JsonNumber.word? (.integer 1) = some 1 := rfl
    have two : JsonNumber.word? (.integer 2) = some 2 := rfl
    simp only [numbersUnderName, Json.integer, ofJson, ofElements, ofMembers, one, two, bind,
      Except.bind]
    rfl
  have entry : Obtained (.list .integer [.integer 1, .integer 2]) :=
    .referred (.untyped ordered read) (show reference _ (.named "numbers") = _ from rfl)
  have made : ofItems (.list .integer)
      [.list .integer [.integer 1, .integer 2], .nil (.list .integer)] =
        .ok (.list (.list .integer)
          [.list .integer [.integer 1, .integer 2], .nil (.list .integer)]) := rfl
  have both := Obtained.list
    (List.forall_mem_cons.mpr ⟨entry, List.forall_mem_singleton.mpr (.nil _)⟩) made
  exact ⟨ordered, read, obtained_wellFormed.1 _ both⟩

end RuleTree.Value
