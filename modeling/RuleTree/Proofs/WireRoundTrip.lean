import Mathlib.Data.List.Forall2
import RuleTree.Proofs.ValueParts
import RuleTree.Proofs.WireGrammar

/-!
# Encoding and decoding again

What a well-formed value is encoded to is decoded to the value. Types and payloads
are inverse separately: a chain of levels is read back as it was written, and so
is the payload under the type that goes with it. That every level says whether a
payload is there keeps apart what is absent from what is empty.
-/

namespace RuleTree.Wire

/-! ## Types -/

/-- A chain of levels is written as an object. -/
theorem encodeLevel_object (level : Level) : ∃ members, encodeLevel level = .object members := by
  cases level with
  | last base => exact ⟨_, rfl⟩
  | «over» base unit => exact ⟨_, rfl⟩

/-- A chain of levels is read back. -/
theorem decodeLevel_encodeLevel (level : Level) : decodeLevel (encodeLevel level) = .ok level := by
  induction level with
  | last base =>
    simp only [encodeLevel, decodeLevel, decodeLevelFields, decodeBase, baseNamed_name, required,
      if_true, bind, Except.bind]
    rfl
  | «over» base unit inductionHypothesis =>
    have readUnit : decodeUnit (encodeLevel unit) = .ok (some unit) := by
      obtain ⟨members, written⟩ := encodeLevel_object unit
      rw [written] at inductionHypothesis ⊢
      simp only [decodeUnit, inductionHypothesis, bind, Except.bind]
    have different : unitField ≠ baseField := by decide
    simp only [encodeLevel, decodeLevel, decodeLevelFields, decodeBase, baseNamed_name, required,
      readUnit, different, if_true, if_false, bind, Except.bind]
    rfl

/-- A type is read back. -/
theorem decodeSignature_encodeSignature (type : Signature) :
    decodeSignature (encodeSignature type) = .ok type := by
  simp only [decodeSignature, encodeSignature, decodeLevel_encodeLevel, typeOf,
    signature_ofSignature, bind, Except.bind]
  rfl

/-! ## Values -/

/-- The object of a type alone is decoded to the nil of the type. -/
theorem decodeValue_typeAlone (type : Signature) :
    decodeValue (.object [(typeField, encodeSignature type)]) = .ok (.nil type) := by
  simp only [decodeValue, decodeFields, decodeSignature_encodeSignature, required, if_true, bind,
    Except.bind]

/-- The object of a type and a payload is decoded as the payload is under the type. -/
theorem decodeValue_withPayload (type : Signature) (payload : Json) :
    decodeValue (withPayload type payload) = decode type payload := by
  have different : valueField ≠ typeField := by decide
  simp only [withPayload, decodeValue, decodeFields, decodeSignature_encodeSignature, required,
    different, if_true, if_false, bind, Except.bind]

/-- Items that are decoded to themselves one by one are so together. -/
theorem decodeElements_encodeItems {items : List Value}
    (each : ∀ item ∈ items, decodeValue (encode item) = .ok item) :
    decodeElements (encodeItems items) = .ok items := by
  induction items with
  | nil => rfl
  | cons first rest inductionHypothesis =>
    obtain ⟨here, others⟩ := List.forall_mem_cons.mp each
    simp only [encodeItems, decodeElements, here, inductionHypothesis others, bind, Except.bind]

/-- Entries are encoded under their names. -/
theorem names_encodeEntries (entries : List (String × List Value)) :
    (encodeEntries entries).map (·.1) = entries.map (·.1) := by
  induction entries with
  | nil => rfl
  | cons entry rest inductionHypothesis =>
    rw [encodeEntries, List.map_cons, List.map_cons, inductionHypothesis]

/-- What is under a name is decoded to the values again, if they are decoded to themselves
one by one and there are any. -/
theorem decodeEntry_encodeItems (name : String) {values : List Value} (occupied : values ≠ [])
    (each : ∀ value ∈ values, decodeValue (encode value) = .ok value) :
    decodeEntry name (.array (encodeItems values)) = .ok values := by
  refine decodeEntry_ok_iff.mpr ⟨encodeItems values, ?_, rfl, decodeElements_encodeItems each⟩
  cases values with
  | nil => exact absurd rfl occupied
  | cons first rest => exact List.cons_ne_nil _ _

/-- Entries in order whose values are decoded to themselves one by one are so together, if
each has values. -/
theorem decodeEntries_encodeEntries {entries : List (String × List Value)}
    (ascending : Entries.Ascending (entries.map (·.1)))
    (occupied : ∀ entry ∈ entries, entry.2 ≠ [])
    (each : ∀ entry ∈ entries, ∀ value ∈ entry.2, decodeValue (encode value) = .ok value) :
    decodeEntries [] (encodeEntries entries) = .ok entries := by
  rw [decodeEntries_inOrder (by rwa [names_encodeEntries])]
  clear ascending
  induction entries with
  | nil => rfl
  | cons entry rest inductionHypothesis =>
    obtain ⟨here, others⟩ := List.forall_mem_cons.mp each
    obtain ⟨present, occupied⟩ := List.forall_mem_cons.mp occupied
    simp only [encodeEntries, Entries.inOrder, decodeEntry_encodeItems entry.1 present here,
      inductionHypothesis occupied others, bind, Except.bind]

/-- What a well-formed value is encoded to is decoded to the value.

Proof: by induction on the value. What is in a list or map is decoded to itself,
and being of the unit type, it makes the list or map again. -/
theorem decodeValue_encode {value : Value} (formed : value.WellFormed) :
    decodeValue (encode value) = .ok value := by
  induction value with
  | nil type => exact decodeValue_typeAlone type
  | boolean payload => exact decodeValue_withPayload .boolean _
  | integer payload =>
    rw [encode, decodeValue_withPayload]
    simp only [decode, Json.integer, decodeScalar, JsonNumber.word?, Numeral.word?_toInt]
  | string payload => exact decodeValue_withPayload .string _
  | regexp payload =>
    rw [encode, decodeValue_withPayload]
    simp only [decode, decodeScalar, Matcher.compile?_source]
  | list unit items inductionHypothesis =>
    cases formed with
    | list _ _ inside =>
      have each := Value.allOf_iff.mp inside
      have decoded : decodeElements (encodeItems items) = .ok items :=
        decodeElements_encodeItems fun item member =>
          inductionHypothesis item member (each item member).formed
      rw [encode, decodeValue_withPayload]
      simp only [decode, decoded, Value.ofItems_ok each, bind, Except.bind]
      rfl
  | map unit entries inductionHypothesis =>
    cases formed with
    | map _ _ inside ordered =>
      have each := Value.entriesOf_iff.mp inside
      have decoded : decodeEntries [] (encodeEntries entries) = .ok entries :=
        decodeEntries_encodeEntries ordered (fun entry member => (each entry member).1)
          fun entry member value held =>
            inductionHypothesis entry member value held ((each entry member).2 value held).formed
      rw [encode, decodeValue_withPayload]
      simp only [decode, decoded, Value.ofEntries_ok inside, bind, Except.bind]
      rfl

/-! ## Payloads at every depth -/

mutual
/-- The encoded values within an encoded value, itself first, in the order in which
they stand in it. -/
def encodedParts : Json → List Json
  | .object members => .object members :: payloadParts members
  | json => [json]

/-- The encoded values within the payload that is among the members. -/
def payloadParts : List (String × Json) → List Json
  | [] => []
  | (name, json) :: rest => if name = valueField then partsWithin json else payloadParts rest

/-- The encoded values within a payload: those of its elements, or of its entries. -/
def partsWithin : Json → List Json
  | .array elements => elementParts elements
  | .object members => entryParts members
  | _ => []

/-- The encoded values within elements. -/
def elementParts : List Json → List Json
  | [] => []
  | element :: rest => encodedParts element ++ elementParts rest

/-- The encoded values within what is under names. -/
def entryParts : List (String × Json) → List Json
  | [] => []
  | (_, json) :: rest => partsWithin json ++ entryParts rest
end

/-- The JSON value is an object that has a payload if the value is there. -/
def ShowsPayload (value : Value) (json : Json) : Prop :=
  ∃ members, json = .object members ∧ (members.lookup valueField).isSome = !value.isNil

/-- An encoded value has a payload if the value is there. -/
theorem showsPayload_encode (value : Value) : ShowsPayload value (encode value) := by
  cases value with
  | nil type => exact ⟨_, rfl, rfl⟩
  | _ => exact ⟨_, rfl, rfl⟩

/-- The encoded values within a type and a payload are itself and those of the
payload. -/
theorem encodedParts_withPayload (type : Signature) (payload : Json) :
    encodedParts (withPayload type payload) = withPayload type payload :: partsWithin payload := by
  have different : typeField ≠ valueField := by decide
  simp only [withPayload, encodedParts, payloadParts, different, if_true, if_false]

/-- The encoded values within items are their parts, encoded. -/
theorem elementParts_encodeItems {items : List Value}
    (each : ∀ item ∈ items, encodedParts (encode item) = item.parts.map encode) :
    elementParts (encodeItems items) = (Value.partsOfAll items).map encode := by
  induction items with
  | nil => rfl
  | cons first rest inductionHypothesis =>
    obtain ⟨here, others⟩ := List.forall_mem_cons.mp each
    simp only [encodeItems, elementParts, Value.partsOfAll, here, inductionHypothesis others,
      List.map_append]

/-- The encoded values within entries are the parts of their values, encoded. -/
theorem entryParts_encodeEntries {entries : List (String × List Value)}
    (each : ∀ entry ∈ entries, ∀ value ∈ entry.2,
      encodedParts (encode value) = value.parts.map encode) :
    entryParts (encodeEntries entries) = (Value.partsOfEntries entries).map encode := by
  induction entries with
  | nil => rfl
  | cons entry rest inductionHypothesis =>
    obtain ⟨here, others⟩ := List.forall_mem_cons.mp each
    simp only [encodeEntries, entryParts, partsWithin, Value.partsOfEntries,
      elementParts_encodeItems here, inductionHypothesis others, List.map_append]

/-- The encoded values within an encoded value are its parts, encoded. -/
theorem encodedParts_encode (value : Value) :
    encodedParts (encode value) = value.parts.map encode := by
  induction value with
  | nil type =>
    have different : typeField ≠ valueField := by decide
    simp only [encode, encodedParts, payloadParts, different, if_false]
    rfl
  | list unit items inductionHypothesis =>
    rw [encode, encodedParts_withPayload, partsWithin,
      elementParts_encodeItems inductionHypothesis, Value.parts, List.map_cons, encode]
  | map unit entries inductionHypothesis =>
    rw [encode, encodedParts_withPayload, partsWithin,
      entryParts_encodeEntries inductionHypothesis, Value.parts, List.map_cons, encode]
  | _ =>
    rw [encode, encodedParts_withPayload]
    rfl

/-- A well-formed value is encoded and decoded to a value that is equal to it and of
its type, and at every depth what it is encoded to has a payload where the value
is there, and only there. -/
theorem encode_decodes_to_equal {value : Value} (formed : value.WellFormed) :
    (∃ read, decodeValue (encode value) = .ok read ∧ read.equal value = true ∧
        read.signature = value.signature) ∧
      List.Forall₂ ShowsPayload value.parts (encodedParts (encode value)) := by
  refine ⟨⟨value, decodeValue_encode formed, value.equal_refl, rfl⟩, ?_⟩
  rw [encodedParts_encode, List.forall₂_map_right_iff, List.forall₂_same]
  exact fun part _ => showsPayload_encode part

/-- A map with a list that has an absent item, an absent list and an empty list under
one name. -/
def mixedLists : Value :=
  .map (.list .string) [("lists", [.list .string [.string "here", .nil .string],
    .nil (.list .string), .list .string []])]

/-- The absent, the empty and the present lists are told apart on the way back. -/
theorem encode_decodes_mixedLists :
    mixedLists.WellFormed ∧
      (∃ read, decodeValue (encode mixedLists) = .ok read ∧ read.equal mixedLists = true ∧
        read.signature = .map (.list .string)) ∧
      List.Forall₂ ShowsPayload mixedLists.parts (encodedParts (encode mixedLists)) := by
  have items : (Value.list .string [.string "here", .nil .string]).WellFormed :=
    .list _ _ (.cons _ _ _ (.string _) rfl (.cons _ _ _ (.nil _) rfl (.nil _)))
  have lists : Value.AllOf (.list .string)
      [.list .string [.string "here", .nil .string], .nil (.list .string), .list .string []] :=
    .cons _ _ _ items rfl (.cons _ _ _ (.nil _) rfl (.cons _ _ _ (.list _ _ (.nil _)) rfl (.nil _)))
  have formed : mixedLists.WellFormed :=
    .map _ _ (.cons _ _ _ _ (by simp) lists (.nil _)) trivial
  exact ⟨formed, encode_decodes_to_equal formed⟩

end RuleTree.Wire
