import RuleTree.Proofs.StructureFaults

/-!
# Which fault is reported

A payload that does not conform to its type can be at fault in several places, at several
depths and in several ways. One fault is reported, and `Faulty` says which, without values
and without carrying anything out. A payload of a list or map is gone through check by check:
the elements of a list in order, and for a map each entry in the order of the names, followed
by its elements. The first check that fails is reported, with the error it fails with, which
can come from any depth. The types of the elements matter only if all checks pass, however
early an element of another type comes.
-/

namespace RuleTree.Wire

/-! ## The checks of a level -/

/-- What has to hold of the payload of a list or map for its elements to be decoded, one
thing at a time. -/
inductive Check
  | entry (name : String) (held : Json)
  | element (json : Json)

/-- The elements that a map has under a name. -/
def elementsOf : Json → List Json
  | .array elements => elements
  | _ => []

/-- The checks of what a map has under a name: the entry itself, and then its elements. -/
def entryChecks (name : String) (held : Json) : List Check :=
  .entry name held :: (elementsOf held).map .element

/-- The checks of one level of a payload, in order. A payload that is not gone through has
none. -/
def checks : Signature → Json → List Check
  | .list _, .array elements => elements.map .element
  | .map _, .object members => members.flatMap fun member => entryChecks member.1 member.2
  | _, _ => []

/-- An entry passes if it is an array that is not empty, and an element if it is one of
some type. -/
def Check.Passes : Check → Prop
  | .entry _ held => ∃ elements, elements ≠ [] ∧ held = .array elements
  | .element json => ∃ type, Element type json

/-- An element agrees with the unit type if it is one of it. An entry has no type of its own. -/
def Check.Agrees (unit : Signature) : Check → Prop
  | .entry .. => True
  | .element json => Element unit json

/-! ## The fault of a payload -/

/-- The payload is of the kind of JSON that the type takes, whatever is in it. -/
inductive Shaped : Signature → Json → Prop
  | null (type : Signature) : Shaped type .null
  | boolean (value : Bool) : Shaped .boolean (.bool value)
  | integer (number : JsonNumber) : Shaped .integer (.number number)
  | string (text : String) : Shaped .string (.string text)
  | regexp (pattern : String) : Shaped .regexp (.string pattern)
  | list (unit : Signature) (elements : List Json) : Shaped (.list unit) (.array elements)
  | map (unit : Signature) (members : List (String × Json)) :
      Shaped (.map unit) (.object members)

mutual
/-- The payload is to be refused under the type for the error: for what it is itself, for
its first check that fails, or, if none does, for its first element that is not of the unit
type. -/
inductive Faulty : Signature → Json → DecodeError → Prop
  | shape (type : Signature) (payload : Json) (unshaped : ¬Shaped type payload) :
      Faulty type payload (.invalidPayload type.base payload.compact)
  | number (number : JsonNumber) (unfit : ¬Conforms .integer (.number number)) :
      Faulty .integer (.number number) (.unsupportedNumber number.toText)
  | pattern (text : String) (unfit : ¬Conforms .regexp (.string text)) :
      Faulty .regexp (.string text) (.invalidRegexp text)
  | check (type : Signature) (payload : Json) (earlier later : List Check) (check : Check)
      (error : DecodeError) (order : checks type payload = earlier ++ check :: later)
      (passed : ∀ other ∈ earlier, other.Passes) (fails : Fails check error) :
      Faulty type payload error
  | stranger (type unit found : Signature) (payload element : Json) (earlier later : List Check)
      (collects : type = .list unit ∨ type = .map unit)
      (order : checks type payload = earlier ++ .element element :: later)
      (passed : ∀ check ∈ checks type payload, check.Passes)
      (agree : ∀ other ∈ earlier, other.Agrees unit)
      (typed : Element found element) (different : found ≠ unit) :
      Faulty type payload (.elementType unit found)

/-- The check fails with the error: an entry for what it is itself, and an element for its
envelope or, unchanged, for its payload. -/
inductive Fails : Check → DecodeError → Prop
  | notArray (name : String) (held : Json) (other : ∀ elements, held ≠ .array elements) :
      Fails (.entry name held) (.invalidPayload .map held.compact)
  | empty (name : String) : Fails (.entry name (.array [])) (.emptyMapEntry name)
  | envelope (json : Json) (fault : StructureError)
      (misread : readEnvelope json = .error (.badStructure fault)) :
      Fails (.element json) (.badStructure fault)
  | payload (json payload : Json) (type : Signature) (error : DecodeError)
      (envelope : Envelope json type payload) (faulty : Faulty type payload error) :
      Fails (.element json) error
end

mutual
/-- No fault of a payload is one of values. -/
theorem Faulty.not_badValue {type : Signature} {payload : Json} {error : DecodeError} :
    Faulty type payload error → ∀ violation, error ≠ .badValue violation
  | .check _ _ _ _ _ _ _ _ fails => fails.not_badValue
  | .shape .. => by simp
  | .number .. => by simp
  | .pattern .. => by simp
  | .stranger .. => by simp

/-- No check fails for a fault of values. -/
theorem Fails.not_badValue {check : Check} {error : DecodeError} :
    Fails check error → ∀ violation, error ≠ .badValue violation
  | .payload _ _ _ _ _ faulty => faulty.not_badValue
  | .notArray .. => by simp
  | .empty .. => by simp
  | .envelope .. => by simp
end

/-! ## The checks of a level as they are carried out -/

/-- The error with which decoding stops at the check, if it does. -/
def Check.error? : Check → Option DecodeError
  | .entry name (.array []) => some (.emptyMapEntry name)
  | .entry _ (.array _) => none
  | .entry _ held => some (.invalidPayload .map held.compact)
  | .element json => refusal? (decodeValue json)

/-- The type of what an element is decoded to, if it is not the unit type. -/
def Check.strange? (unit : Signature) : Check → Option Signature
  | .entry .. => none
  | .element json =>
    match decodeValue json with
    | .ok value => value.strange? unit
    | .error _ => none

/-- What is reported of a level with these checks: the first error met, or else the first
type that is not the unit type. -/
def report (unit : Signature) (checks : List Check) : Option DecodeError :=
  (checks.findSome? Check.error?).or
    ((checks.findSome? (Check.strange? unit)).map (.elementType unit))

section Level

variable {unit : Signature} {elements : List Json} {members : List (String × Json)}

/-- Elements are refused for the first of their checks. -/
theorem refusal?_decodeElements :
    refusal? (decodeElements elements) = (elements.map .element).findSome? Check.error? := by
  induction elements with
  | nil => rfl
  | cons element rest inductionHypothesis =>
    rw [decodeElements, List.map_cons, List.findSome?_cons, Check.error?, ← inductionHypothesis]
    cases decodeValue element with
    | error error => rfl
    | ok value => cases decodeElements rest <;> rfl

/-- What is under a name is refused for the first of its checks. -/
theorem refusal?_decodeEntry (name : String) (held : Json) :
    refusal? (decodeEntry name held) = (entryChecks name held).findSome? Check.error? := by
  cases held with
  | array elements =>
    cases elements with
    | nil => rfl
    | cons element rest =>
      rw [decodeEntry, if_neg (by simp), refusal?_decodeElements]
      rfl
  | _ => rfl

/-- Entries are refused for the first of their checks. -/
theorem refusal?_decodeEntries :
    refusal? (Entries.inOrder decodeEntry members) =
      (members.flatMap fun member => entryChecks member.1 member.2).findSome? Check.error? := by
  induction members with
  | nil => rfl
  | cons member rest inductionHypothesis =>
    rw [List.flatMap_cons, List.findSome?_append, ← inductionHypothesis, ← refusal?_decodeEntry,
      Entries.inOrder]
    cases decodeEntry member.1 member.2 with
    | error error => rfl
    | ok values => cases Entries.inOrder decodeEntry rest <;> rfl

/-- Elements that are decoded and their values have the same strangers. -/
theorem strange?_elements {values : List Value}
    (decoded : decodeElements elements = .ok values) :
    values.findSome? (Value.strange? unit) =
      (elements.map .element).findSome? (Check.strange? unit) := by
  rw [decodeElements_ok_iff] at decoded
  induction decoded with
  | nil => rfl
  | cons first _ inductionHypothesis =>
    rw [List.map_cons, List.findSome?_cons, List.findSome?_cons, inductionHypothesis,
      Check.strange?, first]

/-- Entries that are decoded and their values have the same strangers. -/
theorem strange?_entries {entries : List (String × List Value)}
    (decoded : Entries.inOrder decodeEntry members = .ok entries) :
    (entries.flatMap (·.2)).findSome? (Value.strange? unit) =
      (members.flatMap fun member => entryChecks member.1 member.2).findSome?
        (Check.strange? unit) := by
  rw [Entries.inOrder_ok_iff] at decoded
  induction decoded with
  | nil => rfl
  | cons first _ inductionHypothesis =>
    obtain ⟨elements, _, isArray, ofElements⟩ := decodeEntry_ok_iff.mp first.2
    rw [List.flatMap_cons, List.flatMap_cons, List.findSome?_append, List.findSome?_append,
      inductionHypothesis, strange?_elements ofElements, isArray]
    rfl

/-- An array is refused under the type of a list for what is reported of its checks. -/
theorem refusal?_decode_list :
    refusal? (decode (.list unit) (.array elements)) =
      report unit (checks (.list unit) (.array elements)) := by
  rw [decode, report, checks, ← refusal?_decodeElements]
  cases decoded : decodeElements elements with
  | error error => rfl
  | ok items =>
    rw [← strange?_elements decoded]
    change refusal? ((Value.ofItems unit items).mapError elementError) = _
    rw [refusal?_mapError, Value.refusal?_ofItems, Option.map_map]
    rfl

/-- An object in order is refused under the type of a map for what is reported of its
checks. -/
theorem refusal?_decode_map (ascending : Entries.Ascending (members.map (·.1))) :
    refusal? (decode (.map unit) (.object members)) =
      report unit (checks (.map unit) (.object members)) := by
  rw [decode, report, checks, ← refusal?_decodeEntries, decodeEntries_inOrder ascending]
  cases decoded : Entries.inOrder decodeEntry members with
  | error error => rfl
  | ok entries =>
    rw [← strange?_entries decoded]
    change refusal? ((Value.ofEntries unit entries).mapError elementError) = _
    rw [refusal?_mapError, Value.refusal?_ofEntries, Option.map_map]
    rfl

end Level

/-! ## Checks that are carried out exactly -/

/-- The payload is refused under every type for the fault it has, if it has one. -/
def RefusedForFault (payload : Json) : Prop :=
  ∀ type error, decode type payload = .error error ↔ Faulty type payload error

/-- Decoding stops at the check if it fails, with the error it fails with, and finds the
type of an element that does not agree. -/
structure Check.Exact (check : Check) : Prop where
  passes : check.error? = none ↔ check.Passes
  fails : ∀ error, check.error? = some error ↔ Fails check error
  agrees : ∀ unit, check.Passes → (check.strange? unit = none ↔ check.Agrees unit)
  strange : ∀ unit found, check.strange? unit = some found ↔
    ∃ json, check = .element json ∧ Element found json ∧ found ≠ unit

/-- Decoding stops at an entry that is no array. -/
theorem error?_notArray {name : String} {held : Json}
    (other : ∀ elements, held ≠ .array elements) :
    (Check.entry name held).error? = some (.invalidPayload .map held.compact) := by
  cases held with
  | array elements => exact absurd rfl (other elements)
  | _ => rfl

/-- Entries are checked exactly. -/
theorem entry_exact (name : String) (held : Json) : (Check.entry name held).Exact where
  passes := by
    by_cases array : ∃ elements, held = .array elements
    · obtain ⟨elements, rfl⟩ := array
      cases elements <;> simp [Check.error?, Check.Passes]
    · have other : ∀ elements, held ≠ .array elements := not_exists.mp array
      simp [error?_notArray other, Check.Passes, other]
  fails error := by
    constructor
    · intro failed
      by_cases array : ∃ elements, held = .array elements
      · obtain ⟨elements, rfl⟩ := array
        cases elements with
        | nil =>
          cases failed
          exact .empty name
        | cons first rest => cases failed
      · have other : ∀ elements, held ≠ .array elements := not_exists.mp array
        rw [error?_notArray other] at failed
        cases failed
        exact .notArray name held other
    · intro fails
      cases fails with
      | notArray _ _ other => exact error?_notArray other
      | empty => rfl
  agrees unit _ := by simp [Check.strange?, Check.Agrees]
  strange unit found := by simp [Check.strange?]

/-- An element that is decoded exactly is one of the type of what it is decoded to. -/
theorem ElementExact.element_iff {json : Json} (exact : ElementExact json) (unit : Signature) :
    Element unit json ↔ ∃ value, decodeValue json = .ok value ∧ value.signature = unit := by
  constructor
  · exact exact.complete unit
  · rintro ⟨value, decoded, rfl⟩
    exact (exact.sound value decoded).1

/-- An element is checked exactly if null and its parts are refused for their faults. -/
theorem element_exact {json : Json} (ordered : json.Ordered) (null : RefusedForFault .null)
    (parts : OfParts RefusedForFault json) : (Check.element json).Exact where
  passes := by
    have elements := (decoding_exact ordered).element.element_iff
    simp [Check.error?, refusal?_eq_none, Check.Passes, elements]
  fails error := by
    have each {type : Signature} {payload : Json} (envelope : Envelope json type payload) :
        decode type payload = .error error ↔ Faulty type payload error :=
      envelope.payload_holds null parts type error
    rw [Check.error?, refusal?_eq_some, decodeValue_eq ordered, bind_error_iff]
    constructor
    · rintro (misread | ⟨⟨type, payload⟩, read, failed⟩)
      · obtain ⟨fault, rfl⟩ := structural_readEnvelope json error misread
        exact .envelope json fault misread
      · have envelope := (readEnvelope_ok_iff ordered).mp read
        exact .payload json payload type error envelope ((each envelope).mp failed)
    · intro fails
      cases fails with
      | envelope _ fault misread => exact .inl misread
      | payload _ payload type _ envelope faulty =>
        exact .inr ⟨(type, payload), (readEnvelope_ok_iff ordered).mpr envelope,
            (each envelope).mpr faulty⟩
  agrees := by
    rintro unit ⟨type, element⟩
    have elements := (decoding_exact ordered).element.element_iff
    obtain ⟨value, decoded, _⟩ := (elements type).mp element
    simp [Check.strange?, Check.Agrees, elements, decoded, Value.strange?]
  strange unit found := by
    have elements := (decoding_exact ordered).element.element_iff
    cases decoded : decodeValue json with
    | error error => simp [Check.strange?, elements, decoded]
    | ok value =>
      have typed (type : Signature) : Element type json ↔ value.signature = type := by
        simp [elements, decoded]
      by_cases same : value.signature = unit
      · simp [Check.strange?, decoded, Value.strange?, typed, same, eq_comm]
      · have different : value.signature = found → found ≠ unit := fun is => is ▸ same
        simpa [Check.strange?, decoded, Value.strange?, typed, same] using different

/-! ## Payloads without checks -/

section Leaf

variable {type : Signature} {payload : Json} {error : DecodeError}

/-- A payload that is not of the kind its type takes is refused at once. -/
theorem decode_unshaped (unshaped : ¬Shaped type payload) :
    decode type payload = invalidPayload type payload := by
  cases payload with
  | null => exact absurd (.null type) unshaped
  | bool value =>
    cases type with
    | boolean => exact absurd (.boolean value) unshaped
    | _ => rfl
  | number number =>
    cases type with
    | integer => exact absurd (.integer number) unshaped
    | _ => rfl
  | string text =>
    cases type with
    | string => exact absurd (.string text) unshaped
    | regexp => exact absurd (.regexp text) unshaped
    | _ => rfl
  | array elements =>
    cases type with
    | list unit => exact absurd (.list unit elements) unshaped
    | _ => rfl
  | object members =>
    cases type with
    | map unit => exact absurd (.map unit members) unshaped
    | _ => rfl

/-- The fault of a payload without checks is in what it is itself. -/
theorem faulty_leaf_iff (leaf : checks type payload = []) :
    Faulty type payload error ↔
      (¬Shaped type payload ∧ error = .invalidPayload type.base payload.compact) ∨
      (∃ number, type = .integer ∧ payload = .number number ∧ ¬Conforms type payload ∧
        error = .unsupportedNumber number.toText) ∨
      (∃ text, type = .regexp ∧ payload = .string text ∧ ¬Conforms type payload ∧
        error = .invalidRegexp text) := by
  constructor
  · intro faulty
    cases faulty with
    | shape _ _ unshaped => exact .inl ⟨unshaped, rfl⟩
    | number number unfit => exact .inr (.inl ⟨number, rfl, rfl, unfit, rfl⟩)
    | pattern text unfit => exact .inr (.inr ⟨text, rfl, rfl, unfit, rfl⟩)
    | check _ _ earlier later check _ order => simp [leaf] at order
    | stranger _ unit found _ element earlier later _ order => simp [leaf] at order
  · rintro (⟨unshaped, rfl⟩ | ⟨number, rfl, rfl, unfit, rfl⟩ | ⟨text, rfl, rfl, unfit, rfl⟩)
    · exact .shape type payload unshaped
    · exact .number number unfit
    · exact .pattern text unfit

/-- A payload without checks is refused for its fault. -/
theorem leaf_error_iff (exact : PayloadExact payload) (leaf : checks type payload = []) :
    decode type payload = .error error ↔ Faulty type payload error := by
  have accepts : Conforms type payload ↔ ∃ value, decode type payload = .ok value :=
    ⟨exact.complete type, fun ⟨value, decoded⟩ => (exact.sound type value decoded).1⟩
  rw [faulty_leaf_iff leaf]
  by_cases shaped : Shaped type payload
  · cases shaped with
    | null => simp [Shaped.null, decode, decodeScalar]
    | boolean value => simp [Shaped.boolean, decode, decodeScalar]
    | string text => simp [Shaped.string, decode, decodeScalar]
    | integer number =>
      simp only [Shaped.integer, accepts, decode, decodeScalar]
      cases number.word? <;> simp [eq_comm]
    | regexp pattern =>
      simp only [Shaped.regexp, accepts, decode, decodeScalar]
      cases Matcher.compile? pattern <;> simp [eq_comm]
    | list unit elements =>
      obtain rfl : elements = [] := by simpa [checks] using leaf
      obtain ⟨value, decoded⟩ := accepts.mp (.list unit [] (List.forall_mem_nil _))
      simp [Shaped.list, decoded]
    | map unit members =>
      obtain rfl : members = [] := by
        cases members with
        | nil => rfl
        | cons member rest => simp [checks, entryChecks] at leaf
      obtain ⟨value, decoded⟩ := accepts.mp (.map unit [] (List.forall_mem_nil _))
      simp [Shaped.map, decoded]
  · have noNumber (number : JsonNumber) : ¬(type = .integer ∧ payload = .number number) := by
      rintro ⟨rfl, rfl⟩
      exact shaped (.integer number)
    have noPattern (text : String) : ¬(type = .regexp ∧ payload = .string text) := by
      rintro ⟨rfl, rfl⟩
      exact shaped (.regexp text)
    rw [decode_unshaped shaped, invalidPayload, Except.error.injEq, eq_comm]
    constructor
    · exact fun same => .inl ⟨shaped, same⟩
    · rintro (⟨_, same⟩ | ⟨number, integer, held, _⟩ | ⟨text, regexp, held, _⟩)
      · exact same
      · exact absurd ⟨integer, held⟩ (noNumber number)
      · exact absurd ⟨regexp, held⟩ (noPattern text)

end Leaf

/-! ## Payloads that are gone through -/

section Exact

variable {sequence : List Check} {type unit : Signature} {payload : Json} {error : DecodeError}

/-- The first error met is that of the first check that fails. -/
theorem first_failure_iff (each : ∀ check ∈ sequence, check.Exact) :
    sequence.findSome? Check.error? = some error ↔
      ∃ earlier check later, sequence = earlier ++ check :: later ∧ Fails check error ∧
        ∀ other ∈ earlier, other.Passes := by
  rw [List.findSome?_eq_some_iff]
  refine exists_congr fun earlier => exists_congr fun check => exists_congr fun later =>
    and_congr_right fun order => ?_
  obtain ⟨before, here⟩ := List.forall_mem_append.mp (order ▸ each)
  exact and_congr ((here check List.mem_cons_self).fails error)
    (forall₂_congr fun other member => (before other member).passes)

/-- Where all checks pass, the first type found that is not the unit type is that of the
first element that does not agree. -/
theorem first_stranger_iff (each : ∀ check ∈ sequence, check.Exact)
    (passed : ∀ check ∈ sequence, check.Passes) {found : Signature} :
    sequence.findSome? (Check.strange? unit) = some found ↔
      ∃ earlier element later, sequence = earlier ++ .element element :: later ∧
        (Element found element ∧ found ≠ unit) ∧ ∀ other ∈ earlier, other.Agrees unit := by
  rw [List.findSome?_eq_some_iff]
  constructor
  · rintro ⟨earlier, check, later, order, strange, before⟩
    obtain ⟨exacts, here⟩ := List.forall_mem_append.mp (order ▸ each)
    obtain ⟨passes, _⟩ := List.forall_mem_append.mp (order ▸ passed)
    obtain ⟨element, rfl, typed⟩ := ((here check List.mem_cons_self).strange unit found).mp strange
    refine ⟨earlier, element, later, order, typed, fun other member => ?_⟩
    exact ((exacts other member).agrees unit (passes other member)).mp (before other member)
  · rintro ⟨earlier, element, later, order, typed, agree⟩
    obtain ⟨exacts, here⟩ := List.forall_mem_append.mp (order ▸ each)
    obtain ⟨passes, _⟩ := List.forall_mem_append.mp (order ▸ passed)
    refine ⟨earlier, _, later, order, ?_, fun other member => ?_⟩
    · exact ((here _ List.mem_cons_self).strange unit found).mpr ⟨element, rfl, typed⟩
    · exact ((exacts other member).agrees unit (passes other member)).mpr (agree other member)

/-- A payload that is gone through is refused for its fault, if its checks are carried out
exactly and it is refused for what is reported of them. -/
theorem level_error_iff (collects : type = .list unit ∨ type = .map unit)
    (shaped : Shaped type payload) (each : ∀ check ∈ checks type payload, check.Exact)
    (reported : refusal? (decode type payload) = report unit (checks type payload)) :
    decode type payload = .error error ↔ Faulty type payload error := by
  have passes : (checks type payload).findSome? Check.error? = none ↔
      ∀ check ∈ checks type payload, check.Passes := by
    rw [List.findSome?_eq_none_iff]
    exact forall₂_congr fun check member => (each check member).passes
  rw [← refusal?_eq_some, reported, report, Option.or_eq_some_iff, passes,
    first_failure_iff each, Option.map_eq_some_iff]
  constructor
  · rintro (⟨earlier, check, later, order, fails, before⟩ | ⟨passed, found, stranger, rfl⟩)
    · exact .check type payload earlier later check error order before fails
    · obtain ⟨earlier, element, later, order, ⟨typed, different⟩, agree⟩ :=
        (first_stranger_iff each passed).mp stranger
      exact .stranger type unit found payload element earlier later collects order passed agree
        typed different
  · intro faulty
    cases faulty with
    | shape _ _ unshaped => exact absurd shaped unshaped
    | number => simp at collects
    | pattern => simp at collects
    | check _ _ earlier later check _ order passed fails =>
      exact .inl ⟨earlier, check, later, order, fails, passed⟩
    | stranger _ unit' found _ element earlier later collects' order passed agree typed
        different =>
      obtain rfl : unit = unit' := by
        rcases collects with rfl | rfl <;> simpa using collects'
      exact .inr ⟨passed, found, (first_stranger_iff each passed).mpr
        ⟨earlier, element, later, order, ⟨typed, different⟩, agree⟩, rfl⟩

end Exact

/-! ## Payloads at any depth -/

/-- What is refused is refused for its fault, wherever the JSON value stands: as a payload,
as an element, and as what a map has under a name. -/
structure FaultExact (json : Json) : Prop where
  payload : RefusedForFault json
  element : (Check.element json).Exact
  elements : ∀ element ∈ elementsOf json, (Check.element element).Exact

/-- A null payload is never refused, and has no fault. -/
theorem refusedForFault_null : RefusedForFault .null := fun type _ =>
  leaf_error_iff payloadExact_null (by cases type <;> rfl)

/-- A scalar has no checks, no parts and no elements. -/
theorem faultExact_scalar {json : Json} (ordered : json.Ordered)
    (leaf : ∀ type, checks type json = []) (parts : OfParts RefusedForFault json)
    (noElements : elementsOf json = []) : FaultExact json where
  payload type _ := leaf_error_iff (decoding_exact ordered).payload (leaf type)
  element := element_exact ordered refusedForFault_null parts
  elements := by
    rw [noElements]
    exact List.forall_mem_nil _

/-- What is refused of an ordered JSON value is refused for its fault.

Proof: by induction on the JSON value. The checks of a payload are about its parts, or the
parts of its parts where it is a map; the payload of an envelope is null or a part of it. -/
theorem fault_exact {json : Json} (ordered : json.Ordered) : FaultExact json := by
  induction json with
  | null => exact faultExact_scalar ordered (fun type => by cases type <;> rfl) trivial rfl
  | bool truth => exact faultExact_scalar ordered (fun type => by cases type <;> rfl) trivial rfl
  | number number =>
    exact faultExact_scalar ordered (fun type => by cases type <;> rfl) trivial rfl
  | string text => exact faultExact_scalar ordered (fun type => by cases type <;> rfl) trivial rfl
  | array items inductionHypothesis =>
    have exact := (decoding_exact ordered).payload
    cases ordered with
    | array _ inside =>
      have each : ∀ item ∈ items, FaultExact item := fun item member =>
        inductionHypothesis item member (inside item member)
      have parts : OfParts RefusedForFault (.array items) := fun item member =>
        (each item member).payload
      refine ⟨fun type error => ?_,
        element_exact (.array items inside) refusedForFault_null parts,
        fun item member => (each item member).element⟩
      cases type with
      | list unit =>
        refine level_error_iff (.inl rfl) (.list unit items) ?_ refusal?_decode_list
        exact List.forall_mem_map.mpr fun item member => (each item member).element
      | _ => exact leaf_error_iff exact rfl
  | object members inductionHypothesis =>
    have exact := (decoding_exact ordered).payload
    cases ordered with
    | object _ inside ascending =>
      have each : ∀ member ∈ members, FaultExact member.2 := fun member isMember =>
        inductionHypothesis member isMember (inside member isMember)
      have parts : OfParts RefusedForFault (.object members) := fun member isMember =>
        (each member isMember).payload
      refine ⟨fun type error => ?_,
        element_exact (.object members inside ascending) refusedForFault_null parts,
        List.forall_mem_nil _⟩
      cases type with
      | map unit =>
        refine level_error_iff (.inr rfl) (.map unit members) ?_
          (refusal?_decode_map ascending)
        intro check isCheck
        obtain ⟨member, isMember, isCheck⟩ := List.mem_flatMap.mp isCheck
        rcases List.mem_cons.mp isCheck with rfl | isElement
        · exact entry_exact member.1 member.2
        · obtain ⟨element, held, rfl⟩ := List.mem_map.mp isElement
          exact (each member isMember).elements element held
      | _ => exact leaf_error_iff exact rfl

/-- A payload that does not conform to its type is refused for its fault, and it has no
other. It is never refused because its values make no list or map for a reason that is not
about an element's type. -/
theorem refused_for_first_fault {type : Signature} {payload : Json} (ordered : payload.Ordered)
    (unfit : ¬Conforms type payload) :
    ∃ error, decode type payload = .error error ∧
      (∀ other, Faulty type payload other ↔ other = error) ∧
      ∀ violation, error ≠ .badValue violation := by
  cases decoded : decode type payload with
  | ok value => exact absurd ((decoding_exact ordered).payload.sound type value decoded).1 unfit
  | error error =>
    have faulty := (fault_exact ordered).payload type
    refine ⟨error, rfl, fun other => ?_, ((faulty error).mp decoded).not_badValue⟩
    rw [← faulty other, decoded, Except.error.injEq, eq_comm]

/-- A payload of a map of integers with three faults. The element under the first name is of
another type, the one under the second is a list of booleans with a number in it, and there
is none under the third. -/
def threeFaults : Json :=
  .object [
    ("first", .array [.array [.array [.string "string"]]]),
    ("second", .array [.array [.array [.string "list", .array [.string "boolean"]],
      .array [.array [.array [.string "boolean"], .integer 7]]]]),
    ("third", .array [])]

/-- Of the three faults, the number is reported. -/
theorem refused_for_first_fault_threeFaults :
    threeFaults.Ordered ∧ ¬Conforms (.map .integer) threeFaults ∧
      decode (.map .integer) threeFaults =
        .error (.invalidPayload .boolean (Json.integer 7).compact) ∧
      Faulty (.map .integer) threeFaults (.invalidPayload .boolean (Json.integer 7).compact) := by
  have ordered : threeFaults.Ordered := by
    have single {json : Json} (inside : json.Ordered) : (Json.array [json]).Ordered :=
      .array _ (List.forall_mem_singleton.mpr inside)
    have pair {first second : Json} (front : first.Ordered) (back : second.Ordered) :
        (Json.array [first, second]).Ordered :=
      .array _ (List.forall_mem_cons.mpr ⟨front, List.forall_mem_singleton.mpr back⟩)
    have base (name : String) : (Json.array [.string name]).Ordered := single (.string name)
    refine .object _ ?_ ⟨by decide, by decide, trivial⟩
    refine List.forall_mem_cons.mpr ⟨single (single (base "string")), ?_⟩
    refine List.forall_mem_cons.mpr ⟨single (pair ?_ ?_), ?_⟩
    · exact pair (.string "list") (base "boolean")
    · exact single (pair (base "boolean") (.number _))
    · exact List.forall_mem_singleton.mpr (.array _ (List.forall_mem_nil _))
  have decoded : decode (.map .integer) threeFaults =
      .error (.invalidPayload .boolean (Json.integer 7).compact) := by
    have string : decodeSignature (.array [.string "string"]) = .ok .string := by
      simp only [decodeSignature, decodeLevel, decodeBase, bind, Except.bind]
      rfl
    have boolean : decodeSignature (.array [.string "boolean"]) = .ok .boolean := by
      simp only [decodeSignature, decodeLevel, decodeBase, bind, Except.bind]
      rfl
    have booleans : decodeSignature (.array [.string "list", .array [.string "boolean"]]) =
        .ok (.list .boolean) := by
      simp only [decodeSignature, decodeLevel, decodeUnit, decodeBase, bind, Except.bind]
      rfl
    simp only [threeFaults, decode, decodeEntries, decodeEntry, decodeElements, decodeValue,
      string, boolean, booleans, List.isEmpty_cons, if_false, Bool.false_eq_true, bind,
      Except.bind]
    rfl
  have unfit : ¬Conforms (.map .integer) threeFaults := fun conforms => by
    obtain ⟨value, accepted⟩ := (decoding_exact ordered).payload.complete _ conforms
    cases accepted.symm.trans decoded
  obtain ⟨error, reported, faulty, _⟩ := refused_for_first_fault ordered unfit
  cases reported.symm.trans decoded
  exact ⟨ordered, unfit, decoded, (faulty _).mpr rfl⟩

end RuleTree.Wire
