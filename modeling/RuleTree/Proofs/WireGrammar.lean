import Mathlib.Data.List.Forall2
import RuleTree.Proofs.Collections
import RuleTree.Proofs.TypeGrammar

/-!
# The grammar of encoded values

`Conforms` says which payloads a type has, as a grammar: by shape, without order
of work, errors or values. An element of a list or map is an envelope, which denotes
a type and holds a payload, and conforms if the type is the unit type and the payload
conforms to it.
-/

namespace RuleTree.Wire

/-- How a type and a payload travel together: as members of an object, or as the
items of an array in this order. A payload that is not there is null. -/
inductive Envelope : Json → Signature → Json → Prop
  | object (members : List (String × Json)) (held : Json) (type : Signature)
      (present : members.lookup typeField = some held) (denotes : DenotesType held type) :
      Envelope (.object members) type ((members.lookup valueField).getD .null)
  | single (first : Json) (type : Signature) (denotes : DenotesType first type) :
      Envelope (.array [first]) type .null
  | pair (first payload : Json) (type : Signature) (denotes : DenotesType first type) :
      Envelope (.array [first, payload]) type payload

mutual
/-- The payloads of a type. -/
inductive Conforms : Signature → Json → Prop
  | null (type : Signature) : Conforms type .null
  | boolean (value : Bool) : Conforms .boolean (.bool value)
  | integer (n : Int) (fits : Numeral.FitsWord n) : Conforms .integer (.number (.integer n))
  | string (text : String) : Conforms .string (.string text)
  | regexp (pattern : String) (matcher : Matcher)
      (compiles : Matcher.compile? pattern = some matcher) : Conforms .regexp (.string pattern)
  | list (unit : Signature) (elements : List Json)
      (inside : ∀ element ∈ elements, Element unit element) :
      Conforms (.list unit) (.array elements)
  | map (unit : Signature) (members : List (String × Json))
      (inside : ∀ member ∈ members, Entry unit member.2) : Conforms (.map unit) (.object members)

/-- The elements of lists and maps of a unit type. -/
inductive Element : Signature → Json → Prop
  | envelope (unit : Signature) (element payload : Json) (read : Envelope element unit payload)
      (conforms : Conforms unit payload) : Element unit element

/-- What a map has under a name: an array with at least one element. -/
inductive Entry : Signature → Json → Prop
  | array (unit : Signature) (elements : List Json) (occupied : elements ≠ [])
      (inside : ∀ element ∈ elements, Element unit element) : Entry unit (.array elements)
end

/-! ## Envelopes -/

/-- Once the type is known and cannot come again, the rest of the members matters
for the payload alone. -/
theorem decodeFields_typed (type : Signature) {members : List (String × Json)}
    (absent : typeField ∉ members.map (·.1)) :
    decodeFields (some type) members = decode type ((members.lookup valueField).getD .null) := by
  induction members with
  | nil => rfl
  | cons member rest inductionHypothesis =>
    obtain ⟨name, held⟩ := member
    obtain ⟨different, absent⟩ := not_or.mp (fun either => absent (List.mem_cons.mpr either))
    rw [decodeFields, if_neg (Ne.symm different), Entries.lookup_cons]
    by_cases isValue : name = valueField
    · rw [if_pos isValue, if_pos isValue.symm]
      rfl
    · rw [if_neg isValue, if_neg (Ne.symm isValue), inductionHypothesis absent]

/-- The members of an object in order: its type is read first, and its payload under
that type. -/
theorem decodeFields_ordered {members : List (String × Json)}
    (ascending : Entries.Ascending (members.map (·.1))) :
    decodeFields none members =
      (required typeField (members.lookup typeField) >>= fun held =>
        decodeSignature held >>= fun type =>
          decode type ((members.lookup valueField).getD .null)) := by
  induction members with
  | nil => rfl
  | cons member rest inductionHypothesis =>
    obtain ⟨name, held⟩ := member
    obtain ⟨least, ascending⟩ := Entries.ascending_cons.mp ascending
    rw [decodeFields, Entries.lookup_cons, Entries.lookup_cons]
    by_cases isType : name = typeField
    · have absent : typeField ∉ rest.map (·.1) := fun member =>
        String.lt_irrefl _ (isType ▸ least typeField member)
      rw [if_pos isType, if_pos isType.symm, if_neg (by rw [isType]; decide)]
      simp only [decodeFields_typed _ absent]
      rfl
    · rw [if_neg isType, if_neg (Ne.symm isType)]
      by_cases isValue : name = valueField
      · -- The type would have come before the payload.
        have absent : typeField ∉ rest.map (·.1) := by
          intro member
          have less : name < typeField := least typeField member
          rw [isValue] at less
          exact absurd less (by decide)
        rw [if_pos isValue, Entries.lookup_eq_none absent]
        rfl
      · rw [if_neg isValue, if_neg (Ne.symm isValue), inductionHypothesis ascending]

/-- The type and the payload of an envelope, or what is wrong with its structure. -/
def readEnvelope : Json → Except DecodeError (Signature × Json)
  | .object members => do
    let held ← required typeField (members.lookup typeField)
    let type ← decodeSignature held
    .ok (type, (members.lookup valueField).getD .null)
  | .array [] => tooShort valueStruct
  | .array [first] => do
    let type ← decodeSignature first
    .ok (type, .null)
  | .array [first, payload] => do
    let type ← decodeSignature first
    .ok (type, payload)
  | .array (first :: _ :: _ :: rest) => do
    let _ ← decodeSignature first
    tooLong (rest.length + 3)
  | json => invalidType (foundIn json) valueStruct

/-- An envelope in order is read if it is one, and only then. -/
theorem readEnvelope_ok_iff {json : Json} (ordered : json.Ordered) {type : Signature}
    {payload : Json} :
    readEnvelope json = .ok (type, payload) ↔ Envelope json type payload := by
  constructor
  · intro read
    match json, ordered, read with
    | .object members, .object _ inside _, read =>
      obtain ⟨held, found, read⟩ := bind_ok read
      obtain ⟨type, typed, read⟩ := bind_ok read
      cases read
      cases present : members.lookup typeField with
      | none =>
        rw [present] at found
        cases found
      | some json =>
        rw [present] at found
        cases found
        have inOrder := inside _ (Entries.mem_of_lookup present)
        exact .object members held type present ((decodeSignature_ok_iff inOrder).mp typed)
    | .array [first], .array _ inside, read =>
      obtain ⟨type, typed, read⟩ := bind_ok read
      cases read
      have inOrder := inside first List.mem_cons_self
      exact .single first type ((decodeSignature_ok_iff inOrder).mp typed)
    | .array [first, _], .array _ inside, read =>
      obtain ⟨type, typed, read⟩ := bind_ok read
      cases read
      have inOrder := inside first List.mem_cons_self
      exact .pair first _ type ((decodeSignature_ok_iff inOrder).mp typed)
    | .array (first :: _ :: _ :: _), _, read =>
      obtain ⟨_, _, impossible⟩ := bind_ok read
      cases impossible
  · intro envelope
    cases envelope with
    | object members held _ present denotes =>
      cases ordered with
      | object _ inside _ =>
        have read := (decodeSignature_ok_iff (inside _ (Entries.mem_of_lookup present))).mpr denotes
        simp only [readEnvelope, present, required, read, bind, Except.bind]
    | single first _ denotes =>
      cases ordered with
      | array _ inside =>
        have read := (decodeSignature_ok_iff (inside first List.mem_cons_self)).mpr denotes
        simp only [readEnvelope, read, bind, Except.bind]
    | pair first _ _ denotes =>
      cases ordered with
      | array _ inside =>
        have read := (decodeSignature_ok_iff (inside first List.mem_cons_self)).mpr denotes
        simp only [readEnvelope, read, bind, Except.bind]

/-- To decode an encoded value, its envelope is read and then its payload under its type. -/
theorem decodeValue_eq {json : Json} (ordered : json.Ordered) :
    decodeValue json = readEnvelope json >>= fun read => decode read.1 read.2 := by
  cases ordered with
  | object members _ ascending =>
    rw [decodeValue, decodeFields_ordered ascending, readEnvelope]
    simp only [bind_assoc]
    rfl
  | array items _ =>
    rcases items with _ | ⟨first, _ | ⟨payload, _ | ⟨third, rest⟩⟩⟩
    · rfl
    all_goals
      rw [decodeValue, readEnvelope, bind_assoc]
      rfl
  | _ => rfl

/-- An encoded value is an envelope whose payload is read under its type. -/
theorem decodeValue_ok_iff {json : Json} (ordered : json.Ordered) {value : Value} :
    decodeValue json = .ok value ↔
      ∃ type payload, Envelope json type payload ∧ decode type payload = .ok value := by
  rw [decodeValue_eq ordered]
  constructor
  · intro decoded
    obtain ⟨⟨type, payload⟩, read, decoded⟩ := bind_ok decoded
    exact ⟨type, payload, (readEnvelope_ok_iff ordered).mp read, decoded⟩
  · rintro ⟨type, payload, envelope, decoded⟩
    simp only [(readEnvelope_ok_iff ordered).mpr envelope, bind, Except.bind, decoded]

/-- It holds of the parts of a JSON value: of the items of an array, and of what an object
has under its names. -/
def OfParts (holds : Json → Prop) : Json → Prop
  | .array items => ∀ item ∈ items, holds item
  | .object members => ∀ member ∈ members, holds member.2
  | _ => True

/-- The payload of an envelope is null or a part of it. -/
theorem Envelope.payload_holds {json payload : Json} {type : Signature} {holds : Json → Prop}
    (envelope : Envelope json type payload) (null : holds .null) (parts : OfParts holds json) :
    holds payload := by
  cases envelope with
  | object members =>
    cases found : members.lookup valueField with
    | none => exact null
    | some json => exact parts _ (Entries.mem_of_lookup found)
  | single => exact null
  | pair first => exact parts payload (by simp)

/-! ## Elements and entries one by one -/

/-- Elements are decoded in order, each by itself. -/
theorem decodeElements_ok_iff {elements : List Json} {values : List Value} :
    decodeElements elements = .ok values ↔
      List.Forall₂ (fun element value => decodeValue element = .ok value) elements values := by
  induction elements generalizing values with
  | nil =>
    rw [List.forall₂_nil_left_iff]
    constructor
    · intro decoded
      cases decoded
      rfl
    · rintro rfl
      rfl
  | cons element rest inductionHypothesis =>
    rw [List.forall₂_cons_left_iff]
    constructor
    · intro decoded
      rw [decodeElements] at decoded
      obtain ⟨value, first, decoded⟩ := bind_ok decoded
      obtain ⟨others, later, decoded⟩ := bind_ok decoded
      cases decoded
      exact ⟨value, others, first, inductionHypothesis.mp later, rfl⟩
    · rintro ⟨value, others, first, later, rfl⟩
      simp only [decodeElements, bind, Except.bind, first, inductionHypothesis.mpr later]

/-- What is under a name is decoded if it is an array that is not empty and whose elements
are decoded. -/
theorem decodeEntry_ok_iff {name : String} {held : Json} {values : List Value} :
    decodeEntry name held = .ok values ↔
      ∃ elements, elements ≠ [] ∧ held = .array elements ∧
        decodeElements elements = .ok values := by
  cases held with
  | array elements => cases elements <;> simp [decodeEntry]
  | _ => simp [decodeEntry, invalidPayload]

/-- Entries are decoded one after another, and each is inserted among those before it. -/
theorem decodeEntries_eq (entries : List (String × List Value)) (members : List (String × Json)) :
    decodeEntries entries members = Entries.insertAll decodeEntry entries members := by
  induction members generalizing entries with
  | nil => rfl
  | cons member rest inductionHypothesis =>
    simp only [decodeEntries, Entries.insertAll, inductionHypothesis]

/-- Members that come in order are decoded to entries in this order. -/
theorem decodeEntries_inOrder {members : List (String × Json)}
    (ascending : Entries.Ascending (members.map (·.1))) :
    decodeEntries [] members = Entries.inOrder decodeEntry members := by
  rw [decodeEntries_eq, Entries.insertAll_nil ascending]

/-! ## Soundness and completeness -/

/-- Decoding the payload succeeds under the types it conforms to, and gives values
that fit them. -/
structure PayloadExact (payload : Json) : Prop where
  sound : ∀ type value, decode type payload = .ok value → Conforms type payload ∧ value.Fits type
  complete : ∀ type, Conforms type payload → ∃ value, decode type payload = .ok value

/-- Decoding the element succeeds if it is one of some type, and gives a well-formed
value of that type. -/
structure ElementExact (element : Json) : Prop where
  sound : ∀ value, decodeValue element = .ok value →
    Element value.signature element ∧ value.WellFormed
  complete : ∀ unit, Element unit element →
    ∃ value, decodeValue element = .ok value ∧ value.signature = unit

/-- A null payload is the nil of every type. -/
theorem payloadExact_null : PayloadExact .null where
  sound type value decoded := by
    obtain rfl : Value.nil type = value := Except.ok.inj decoded
    exact ⟨.null type, Value.fits_nil type⟩
  complete type _ := ⟨.nil type, rfl⟩

/-- A truth value is a payload of the booleans. -/
theorem payloadExact_bool (truth : Bool) : PayloadExact (.bool truth) where
  sound type value decoded := by
    cases type with
    | boolean =>
      obtain rfl : Value.boolean truth = value := Except.ok.inj decoded
      exact ⟨.boolean truth, Value.fits_boolean truth⟩
    | _ => cases decoded
  complete type conforms := by
    cases conforms with
    | boolean => exact ⟨.boolean truth, rfl⟩

/-- A number is a payload of the integers if a word holds it. -/
theorem payloadExact_number (number : JsonNumber) : PayloadExact (.number number) where
  sound type value decoded := by
    cases type with
    | integer =>
      simp only [decode, decodeScalar] at decoded
      cases number with
      | double _ => cases decoded
      | integer n =>
        simp only [JsonNumber.word?, Numeral.word?] at decoded
        split at decoded
        · rename_i word held
          obtain rfl : Value.integer word = value := Except.ok.inj decoded
          have fits : Numeral.FitsWord n := by
            by_cases fits : Numeral.FitsWord n
            · exact fits
            · simp [fits] at held
          exact ⟨.integer n fits, .integer word, rfl⟩
        · cases decoded
    | _ => cases decoded
  complete type conforms := by
    cases conforms with
    | integer n fits =>
      refine ⟨.integer (.ofInt n), ?_⟩
      simp [decode, decodeScalar, JsonNumber.word?, Numeral.word?, fits]

/-- A text is a payload of the strings, and of the regular expressions if it compiles. -/
theorem payloadExact_string (text : String) : PayloadExact (.string text) where
  sound type value decoded := by
    cases type with
    | string =>
      obtain rfl : Value.string text = value := Except.ok.inj decoded
      exact ⟨.string text, .string text, rfl⟩
    | regexp =>
      simp only [decode, decodeScalar] at decoded
      split at decoded
      · rename_i matcher compiles
        obtain rfl : Value.regexp matcher = value := Except.ok.inj decoded
        exact ⟨.regexp text matcher compiles, .regexp matcher, rfl⟩
      · cases decoded
    | _ => cases decoded
  complete type conforms := by
    cases conforms with
    | string => exact ⟨.string text, rfl⟩
    | regexp _ matcher compiles =>
      exact ⟨.regexp matcher, by simp only [decode, decodeScalar, compiles]⟩

section Nested

variable {unit : Signature} {elements : List Json} {members : List (String × Json)}

/-- What elements are decoded to is well formed; if it is all of one type, the
elements are of that type. -/
theorem elements_sound (unit : Signature) (each : ∀ element ∈ elements, ElementExact element)
    {values : List Value} (decoded : decodeElements elements = .ok values) :
    (∀ value ∈ values, value.WellFormed) ∧
      ((∀ value ∈ values, value.signature = unit) →
        ∀ element ∈ elements, Element unit element) := by
  rw [decodeElements_ok_iff] at decoded
  induction decoded with
  | nil => simp
  | cons first _ inductionHypothesis =>
    obtain ⟨exact, others⟩ := List.forall_mem_cons.mp each
    obtain ⟨element, formed⟩ := exact.sound _ first
    obtain ⟨allFormed, allElements⟩ := inductionHypothesis others
    refine ⟨List.forall_mem_cons.mpr ⟨formed, allFormed⟩, fun typed => ?_⟩
    obtain ⟨same, typed⟩ := List.forall_mem_cons.mp typed
    exact List.forall_mem_cons.mpr ⟨same ▸ element, allElements typed⟩

/-- Elements of a type are decoded to values of it. -/
theorem elements_complete (each : ∀ element ∈ elements, ElementExact element)
    (inside : ∀ element ∈ elements, Element unit element) :
    ∃ values, decodeElements elements = .ok values ∧ ∀ value ∈ values, value.signature = unit := by
  induction elements with
  | nil => exact ⟨[], rfl, List.forall_mem_nil _⟩
  | cons element rest inductionHypothesis =>
    obtain ⟨exact, others⟩ := List.forall_mem_cons.mp each
    obtain ⟨here, later⟩ := List.forall_mem_cons.mp inside
    obtain ⟨value, first, typed⟩ := exact.complete unit here
    obtain ⟨values, decoded, allTyped⟩ := inductionHypothesis others later
    refine ⟨value :: values, ?_, List.forall_mem_cons.mpr ⟨typed, allTyped⟩⟩
    rw [decodeElements_ok_iff] at decoded ⊢
    exact .cons first decoded

/-- An array is a payload of the lists whose unit type its elements are of. -/
theorem payloadExact_array (each : ∀ element ∈ elements, ElementExact element) :
    PayloadExact (.array elements) where
  sound type value decoded := by
    cases type with
    | list unit =>
      rw [decode] at decoded
      obtain ⟨items, ofElements, made⟩ := bind_ok decoded
      rw [mapError_ok_iff] at made
      obtain ⟨formed, inside⟩ := elements_sound unit each ofElements
      exact ⟨.list unit elements (inside (Value.ofItems_ok_iff.mp made).1),
        Value.ofItems_fits formed made⟩
    | _ => cases decoded
  complete type conforms := by
    cases conforms with
    | list unit _ inside =>
      obtain ⟨items, decoded, typed⟩ := elements_complete each inside
      refine ⟨.list unit items, ?_⟩
      simp only [decode, decoded, bind, Except.bind, mapError_ok_iff]
      exact Value.ofItems_ok_iff.mpr ⟨typed, rfl⟩

/-- The elements under every name are decoded exactly. -/
abbrev EntriesExact (members : List (String × Json)) : Prop :=
  ∀ member ∈ members, ∀ elements, member.2 = .array elements →
    ∀ element ∈ elements, ElementExact element

/-- What entries are decoded to is well formed and under the same names; if it is all
of one type, the members are entries of that type. -/
theorem entries_sound (unit : Signature) (each : EntriesExact members)
    {entries : List (String × List Value)}
    (decoded : Entries.inOrder decodeEntry members = .ok entries) :
    (∀ entry ∈ entries, ∀ value ∈ entry.2, value.WellFormed) ∧
      entries.map (·.1) = members.map (·.1) ∧
      ((∀ entry ∈ entries, ∀ value ∈ entry.2, value.signature = unit) →
        ∀ member ∈ members, Entry unit member.2) := by
  rw [Entries.inOrder_ok_iff] at decoded
  induction decoded with
  | nil => simp
  | cons first _ inductionHypothesis =>
    obtain ⟨sameName, here⟩ := first
    obtain ⟨elements, occupied, isArray, ofElements⟩ := decodeEntry_ok_iff.mp here
    obtain ⟨exact, others⟩ := List.forall_mem_cons.mp each
    obtain ⟨formed, inside⟩ := elements_sound unit (exact elements isArray) ofElements
    obtain ⟨allFormed, names, allEntries⟩ := inductionHypothesis others
    refine ⟨List.forall_mem_cons.mpr ⟨formed, allFormed⟩, ?_, fun typed => ?_⟩
    · rw [List.map_cons, List.map_cons, names, sameName]
    · obtain ⟨same, typed⟩ := List.forall_mem_cons.mp typed
      refine List.forall_mem_cons.mpr ⟨?_, allEntries typed⟩
      rw [isArray]
      exact .array unit elements occupied (inside same)

/-- Entries of a type are decoded to values of it. -/
theorem entries_complete (each : EntriesExact members)
    (inside : ∀ member ∈ members, Entry unit member.2) :
    ∃ entries, Entries.inOrder decodeEntry members = .ok entries ∧
      ∀ entry ∈ entries, ∀ value ∈ entry.2, value.signature = unit := by
  induction members with
  | nil => exact ⟨[], rfl, List.forall_mem_nil _⟩
  | cons member rest inductionHypothesis =>
    obtain ⟨name, json⟩ := member
    obtain ⟨exact, others⟩ := List.forall_mem_cons.mp each
    obtain ⟨here, later⟩ := List.forall_mem_cons.mp inside
    cases here with
    | array _ elements occupied elementsOfUnit =>
      obtain ⟨values, first, typed⟩ := elements_complete (exact elements rfl) elementsOfUnit
      obtain ⟨entries, decoded, allTyped⟩ := inductionHypothesis others later
      refine ⟨(name, values) :: entries, ?_, List.forall_mem_cons.mpr ⟨typed, allTyped⟩⟩
      rw [Entries.inOrder_ok_iff] at decoded ⊢
      exact .cons ⟨rfl, decodeEntry_ok_iff.mpr ⟨elements, occupied, rfl, first⟩⟩ decoded

/-- An object in order is a payload of the maps whose unit type its entries are of. -/
theorem payloadExact_object (ascending : Entries.Ascending (members.map (·.1)))
    (each : EntriesExact members) : PayloadExact (.object members) where
  sound type value decoded := by
    cases type with
    | map unit =>
      rw [decode, decodeEntries_inOrder ascending] at decoded
      obtain ⟨entries, ofMembers, made⟩ := bind_ok decoded
      rw [mapError_ok_iff] at made
      obtain ⟨formed, names, inside⟩ := entries_sound unit each ofMembers
      exact ⟨.map unit members (inside (Value.ofEntries_ok_iff.mp made).1),
        Value.ofEntries_fits formed (names ▸ ascending) made⟩
    | _ => cases decoded
  complete type conforms := by
    cases conforms with
    | map unit _ inside =>
      obtain ⟨entries, decoded, typed⟩ := entries_complete each inside
      refine ⟨.map unit (entries.filter fun entry => !entry.2.isEmpty), ?_⟩
      simp only [decode, decodeEntries_inOrder ascending, decoded, bind, Except.bind,
        mapError_ok_iff]
      exact Value.ofEntries_ok_iff.mpr ⟨typed, rfl⟩

end Nested

/-- An element whose parts are decoded exactly is decoded exactly itself. -/
theorem elementExact_of_parts {json : Json} (ordered : json.Ordered)
    (parts : OfParts PayloadExact json) : ElementExact json where
  sound value decoded := by
    obtain ⟨type, payload, envelope, read⟩ := (decodeValue_ok_iff ordered).mp decoded
    have exact : PayloadExact payload := envelope.payload_holds payloadExact_null parts
    obtain ⟨conforms, fits⟩ := exact.sound type value read
    rw [fits.typed]
    exact ⟨.envelope type json payload envelope conforms, fits.formed⟩
  complete unit element := by
    cases element with
    | envelope _ _ payload envelope conforms =>
      have exact : PayloadExact payload := envelope.payload_holds payloadExact_null parts
      obtain ⟨value, read⟩ := exact.complete unit conforms
      exact ⟨value, (decodeValue_ok_iff ordered).mpr ⟨unit, payload, envelope, read⟩,
        (exact.sound unit value read).2.typed⟩

/-- Decoding the JSON value is exact wherever it stands: as a payload, as an element,
and as what a map has under a name. -/
structure Exact (json : Json) : Prop where
  payload : PayloadExact json
  element : ElementExact json
  elements : ∀ elements, json = .array elements → ∀ element ∈ elements, ElementExact element

/-- A scalar has no parts and no elements. -/
theorem exact_scalar {json : Json} (ordered : json.Ordered) (payload : PayloadExact json)
    (parts : OfParts PayloadExact json) (notArray : ∀ elements, json ≠ .array elements) :
    Exact json where
  payload := payload
  element := elementExact_of_parts ordered parts
  elements elements same := absurd same (notArray elements)

/-- Decoding is exact on every ordered JSON value.

Proof: by induction on the JSON value. The payload of an envelope is null or a part
of it, and the elements of a list are parts of it too. The elements of a map are
parts of parts, so the induction carries along what is known of the items of an
array. -/
theorem decoding_exact {json : Json} (ordered : json.Ordered) : Exact json := by
  induction json with
  | null => exact exact_scalar ordered payloadExact_null trivial (by simp)
  | bool truth => exact exact_scalar ordered (payloadExact_bool truth) trivial (by simp)
  | number number => exact exact_scalar ordered (payloadExact_number number) trivial (by simp)
  | string text => exact exact_scalar ordered (payloadExact_string text) trivial (by simp)
  | array items inductionHypothesis =>
    cases ordered with
    | array _ inside =>
      have each : ∀ item ∈ items, Exact item := fun item member =>
        inductionHypothesis item member (inside item member)
      have parts : OfParts PayloadExact (.array items) := fun item member =>
        (each item member).payload
      refine ⟨payloadExact_array fun item member => (each item member).element,
        elementExact_of_parts (.array items inside) parts, ?_⟩
      intro elements same element member
      obtain rfl : items = elements := Json.array.inj same
      exact (each element member).element
  | object members inductionHypothesis =>
    cases ordered with
    | object _ inside ascending =>
      have each : ∀ member ∈ members, Exact member.2 := fun member isMember =>
        inductionHypothesis member isMember (inside member isMember)
      have parts : OfParts PayloadExact (.object members) := fun member isMember =>
        (each member isMember).payload
      exact ⟨payloadExact_object ascending fun member isMember => (each member isMember).elements,
        elementExact_of_parts (.object members inside ascending) parts, by simp⟩

/-- A payload is decoded if it conforms to the type, and only then. What it is decoded
to is well formed at every depth and of exactly that type; null gives the nil. -/
theorem decode_accepts_exactly {payload : Json} (ordered : payload.Ordered) (type : Signature) :
    ((∃ value, decode type payload = .ok value) ↔ Conforms type payload) ∧
      ∀ value, decode type payload = .ok value →
        value.WellFormed ∧ value.signature = type ∧ (payload = .null → value = .nil type) := by
  have exact := (decoding_exact ordered).payload
  refine ⟨⟨fun ⟨value, decoded⟩ => (exact.sound type value decoded).1, exact.complete type⟩, ?_⟩
  intro value decoded
  have fits := (exact.sound type value decoded).2
  refine ⟨fits.formed, fits.typed, ?_⟩
  rintro rfl
  exact (Except.ok.inj decoded).symm

/-- A payload of a map with two integers under one name: the first an object with its
type and payload, the second an array with its type alone. -/
def twoIntegers : Json :=
  .object [("both", .array [
    .object [(typeField, .object [(baseField, .string "integer")]), (valueField, .integer 7)],
    .array [.object [(baseField, .string "integer")]]])]

/-- The two integers conform to the maps of integers, and are decoded to the number
and a nil. -/
theorem decode_accepts_twoIntegers :
    twoIntegers.Ordered ∧ Conforms (.map .integer) twoIntegers ∧
      decode (.map .integer) twoIntegers =
        .ok (.map .integer [("both", [.integer 7, .nil .integer])]) ∧
      (Value.map .integer [("both", [.integer 7, .nil .integer])]).WellFormed := by
  have ordered : twoIntegers.Ordered := by
    have type : (Json.object [(baseField, .string "integer")]).Ordered :=
      .object _ (by simp [Json.Ordered.string]) trivial
    refine .object _ (List.forall_mem_singleton.mpr (.array _ ?_)) trivial
    refine List.forall_mem_cons.mpr ⟨.object _ ?_ ⟨by decide, trivial⟩, ?_⟩
    · exact List.forall_mem_cons.mpr ⟨type, List.forall_mem_singleton.mpr (.number _)⟩
    · exact List.forall_mem_singleton.mpr (.array _ (List.forall_mem_singleton.mpr type))
  have decoded : decode (.map .integer) twoIntegers =
      .ok (.map .integer [("both", [.integer 7, .nil .integer])]) := by
    have integer : decodeSignature (.object [(baseField, .string "integer")]) = .ok .integer := by
      have base : baseNamed "integer" = .ok .integer := rfl
      simp only [decodeSignature, decodeLevel, decodeLevelFields, decodeBase, base, required,
        if_true, bind, Except.bind]
      rfl
    have seven : decode .integer (.integer 7) = .ok (.integer 7) := by
      simp only [Json.integer, decode, decodeScalar]
      rfl
    have different : valueField ≠ typeField := by decide
    simp only [twoIntegers, decode, decodeEntries, decodeEntry, decodeElements, decodeValue,
      decodeFields, integer, seven, different, required, List.isEmpty_cons, if_true, if_false,
      Bool.false_eq_true, bind, Except.bind]
    rfl
  obtain ⟨accepts, sound⟩ := decode_accepts_exactly ordered (.map .integer)
  exact ⟨ordered, accepts.mp ⟨_, decoded⟩, decoded, (sound _ decoded).1⟩

end RuleTree.Wire
