import RuleTree.Proofs.ObtainedValue

/-!
# The type that untyped data suggests

Whether untyped data can be made a value, and what type the value has, is seen from the
data alone: a type is inferred from the leaves upwards, and nothing is converted to see it.
An array or object has a type if all that is in it has one and the same type, and what is
empty is taken for strings. Null has a type of its own, so it goes together with nothing
but null.

Conversion adds the types and nothing else. Without them, the value shows the data again.
-/

namespace RuleTree

/-! ## Inferred types -/

/-- The type that all of several types are; that which is assumed if there are none. -/
def Signature.common? : List Signature → Option Signature
  | [] => some .assumed
  | first :: rest => if ∀ type ∈ rest, type = first then some first else none

namespace Json

mutual
/-- The type that untyped data suggests, if it suggests one. -/
def inferredType? : Json → Option Signature
  | .null => some .nil
  | .bool _ => some .boolean
  | .number (.integer n) => if Numeral.FitsWord n then some .integer else none
  | .number (.double _) => none
  | .string _ => some .string
  | .array elements => do
    let types ← elementTypes? elements
    (Signature.common? types).map .list
  | .object members => do
    let types ← memberTypes? members
    (Signature.common? types).map .map

/-- The types of elements, if all suggest one. -/
def elementTypes? : List Json → Option (List Signature)
  | [] => some []
  | element :: rest => do
    let type ← inferredType? element
    let types ← elementTypes? rest
    some (type :: types)

/-- The types of members, if all suggest one. -/
def memberTypes? : List (String × Json) → Option (List Signature)
  | [] => some []
  | (_, member) :: rest => do
    let type ← inferredType? member
    let types ← memberTypes? rest
    some (type :: types)
end

end Json

namespace Value

/-! ## Data without types -/

mutual
/-- What a value shows without its types. An entry shows its value, if it has one value. -/
def untyped? : Value → Option Json
  | .nil _ => some .null
  | .boolean payload => some (.bool payload)
  | .integer payload => some (.integer payload.toInt)
  | .string payload => some (.string payload)
  | .regexp payload => some (.string payload.source)
  | .list _ items => do
    let elements ← untypedItems? items
    some (.array elements)
  | .map _ entries => do
    let members ← untypedEntries? entries
    some (.object members)

/-- What several values show. -/
def untypedItems? : List Value → Option (List Json)
  | [] => some []
  | item :: rest => do
    let element ← untyped? item
    let elements ← untypedItems? rest
    some (element :: elements)

/-- What entries of one value each show. -/
def untypedEntries? : List (String × List Value) → Option (List (String × Json))
  | [] => some []
  | (name, values) :: rest =>
    match untypedItems? values with
    | some [member] => do
      let members ← untypedEntries? rest
      some ((name, member) :: members)
    | _ => none
end

/-! ## Conversion -/

/-- Why data suggests no type: for a number that is no word, or for types that differ. -/
inductive NoType : DecodeError → Prop
  | number (text : String) : NoType (.unsupportedNumber text)
  | mixed (first other : Signature) (differ : other ≠ first) : NoType (.mixedTypes first other)

/-- How the conversion of data has come out: it has a value of the type that the data
suggests, which shows the data again; or the data suggests none. -/
inductive Converted (json : Json) : Except DecodeError Value → Prop
  | converted {value : Value} (typed : json.inferredType? = some value.signature)
      (shown : value.untyped? = some json) : Converted json (.ok value)
  | refused {error : DecodeError} (untyped : json.inferredType? = none) (reason : NoType error) :
      Converted json (.error error)

/-- Values share a type if their types have a common one, which is then shared. -/
theorem sharedType_cases (values : List Value) :
    (∃ unit, sharedType values = .ok unit ∧ Signature.common? (values.map signature) = some unit ∧
      ∀ value ∈ values, value.signature = unit) ∨
    (∃ error, sharedType values = .error error ∧ NoType error ∧
      Signature.common? (values.map signature) = none) := by
  cases values with
  | nil => exact .inl ⟨.assumed, rfl, rfl, List.forall_mem_nil _⟩
  | cons first rest =>
    rcases stranger : rest.find? (fun value => !value.sameType first) with _ | other
    · have same : ∀ value ∈ rest, value.signature = first.signature := by
        intro value member
        have similar := List.find?_eq_none.mp stranger value member
        simpa [sameType_eq] using similar
      refine .inl ⟨first.signature, ?_, ?_, List.forall_mem_cons.mpr ⟨rfl, same⟩⟩
      · simp only [sharedType, stranger]
      · rw [List.map_cons, Signature.common?, if_pos]
        exact List.forall_mem_map.mpr same
    · have differ : other.signature ≠ first.signature := by
        have dissimilar := List.find?_some stranger
        simpa [sameType_eq] using dissimilar
      refine .inr ⟨_, ?_, .mixed first.signature other.signature differ, ?_⟩
      · simp only [sharedType, stranger]
      · rw [List.map_cons, Signature.common?, if_neg]
        intro same
        exact differ (same _ (List.mem_map_of_mem (List.mem_of_find?_eq_some stranger)))

/-- Elements are converted as each of them is. -/
theorem ofElements_cases {elements : List Json}
    (each : ∀ element ∈ elements, Converted element (ofJson element)) :
    (∃ items, ofElements elements = .ok items ∧
      Json.elementTypes? elements = some (items.map signature) ∧
      untypedItems? items = some elements) ∨
    (∃ error, ofElements elements = .error error ∧ NoType error ∧
      Json.elementTypes? elements = none) := by
  induction elements with
  | nil => exact .inl ⟨[], rfl, rfl, rfl⟩
  | cons element rest inductionHypothesis =>
    obtain ⟨here, others⟩ := List.forall_mem_cons.mp each
    rcases outcome : ofJson element with error | value
    · rw [outcome] at here
      cases here with
      | refused untyped reason =>
        refine .inr ⟨error, ?_, reason, ?_⟩
        · rw [ofElements, outcome]
          rfl
        · rw [Json.elementTypes?, untyped]
          rfl
    · rw [outcome] at here
      cases here with
      | converted typed shown =>
        rcases inductionHypothesis others with
          ⟨items, read, types, elements⟩ | ⟨error, refused, reason, types⟩
        · refine .inl ⟨value :: items, ?_, ?_, ?_⟩
          · rw [ofElements, outcome, read]
            rfl
          · rw [Json.elementTypes?, typed, types]
            rfl
          · rw [untypedItems?, shown, elements]
            rfl
        · refine .inr ⟨error, ?_, reason, ?_⟩
          · rw [ofElements, outcome, refused]
            rfl
          · rw [Json.elementTypes?, typed, types]
            rfl

/-- The values of the entry that a member becomes. -/
def ofMember (_ : String) (member : Json) : Except DecodeError (List Value) := do
  let value ← ofJson member
  .ok [value]

/-- Entries are made of members one after another, and each is inserted among those before
it. -/
theorem ofMembers_eq (entries : List (String × List Value)) (members : List (String × Json)) :
    ofMembers entries members = Entries.insertAll ofMember entries members := by
  induction members generalizing entries with
  | nil => rfl
  | cons member rest inductionHypothesis =>
    simp only [ofMembers, Entries.insertAll, ofMember, inductionHypothesis, bind_assoc]
    rfl

/-- Members that come in order become entries in this order. -/
theorem ofMembers_inOrder {members : List (String × Json)}
    (ascending : Entries.Ascending (members.map (·.1))) :
    ofMembers [] members = Entries.inOrder ofMember members := by
  rw [ofMembers_eq, Entries.insertAll_nil ascending]

/-- Members are converted as each of them is, each to an entry of one value. -/
theorem ofMembers_cases {members : List (String × Json)}
    (each : ∀ member ∈ members, Converted member.2 (ofJson member.2)) :
    (∃ entries, Entries.inOrder ofMember members = .ok entries ∧
      Json.memberTypes? members = some ((entries.flatMap (·.2)).map signature) ∧
      untypedEntries? entries = some members ∧ ∀ entry ∈ entries, entry.2 ≠ []) ∨
    (∃ error, Entries.inOrder ofMember members = .error error ∧ NoType error ∧
      Json.memberTypes? members = none) := by
  induction members with
  | nil => exact .inl ⟨[], rfl, rfl, rfl, List.forall_mem_nil _⟩
  | cons first rest inductionHypothesis =>
    obtain ⟨name, member⟩ := first
    obtain ⟨here, others⟩ := List.forall_mem_cons.mp each
    dsimp only at here
    rcases outcome : ofJson member with error | value
    · rw [outcome] at here
      cases here with
      | refused untyped reason =>
        refine .inr ⟨error, ?_, reason, ?_⟩
        · rw [Entries.inOrder, ofMember, outcome]
          rfl
        · rw [Json.memberTypes?, untyped]
          rfl
    · rw [outcome] at here
      cases here with
      | converted typed shown =>
        rcases inductionHypothesis others with
          ⟨entries, read, types, members, occupied⟩ | ⟨error, refused, reason, types⟩
        · refine .inl ⟨(name, [value]) :: entries, ?_, ?_, ?_, ?_⟩
          · rw [Entries.inOrder, ofMember, outcome, read]
            rfl
          · rw [Json.memberTypes?, typed, types]
            rfl
          · have alone : untypedItems? [value] = some [member] := by
              rw [untypedItems?, shown]
              rfl
            rw [untypedEntries?, alone, members]
            rfl
          · exact List.forall_mem_cons.mpr ⟨List.cons_ne_nil value [], occupied⟩
        · refine .inr ⟨error, ?_, reason, ?_⟩
          · rw [Entries.inOrder, ofMember, outcome, refused]
            rfl
          · rw [Json.memberTypes?, typed, types]
            rfl

/-- A number is converted if it is a word. -/
theorem ofJson_number_converted (number : JsonNumber) :
    Converted (.number number) (ofJson (.number number)) := by
  cases number with
  | integer n =>
    by_cases fits : Numeral.FitsWord n
    · have word : JsonNumber.word? (.integer n) = some (Int64.ofInt n) := if_pos fits
      have read : ofJson (.number (.integer n)) = .ok (.integer (Int64.ofInt n)) := by
        rw [ofJson, word]
      have number : (Int64.ofInt n).toInt = n := Int64.toInt_ofInt_of_le fits.1 fits.2
      rw [read]
      refine .converted ?_ ?_
      · exact if_pos fits
      · rw [untyped?, number]
        rfl
    · have word : JsonNumber.word? (.integer n) = none := if_neg fits
      have refused : ofJson (.number (.integer n)) =
          .error (.unsupportedNumber (JsonNumber.toText (.integer n))) := by
        rw [ofJson, word]
      rw [refused]
      exact .refused (if_neg fits) (.number _)
  | double value => exact .refused rfl (.number _)

/-- A list or map is made of values that share a type, and of no others: that the values
share it is all that making it checks. -/
theorem converted_of_sharedType {json : Json} (values : List Value)
    (make : Signature → Except DecodeError Value) (made : Signature → Value)
    (reads : ofJson json = sharedType values >>= make)
    (infers : json.inferredType? =
      (Signature.common? (values.map signature)).map fun unit => (made unit).signature)
    (makes : ∀ unit, (∀ value ∈ values, value.signature = unit) → make unit = .ok (made unit))
    (shows : ∀ unit, (made unit).untyped? = some json) : Converted json (ofJson json) := by
  rcases sharedType_cases values with
    ⟨unit, shared, common, same⟩ | ⟨error, mixed, reason, common⟩
  · have converted : ofJson json = .ok (made unit) := by
      rw [reads, shared]
      exact makes unit same
    rw [converted]
    refine .converted ?_ (shows unit)
    rw [infers, common, Option.map_some]
  · have refused : ofJson json = .error error := by
      rw [reads, mixed]
      rfl
    rw [refused]
    refine .refused ?_ reason
    rw [infers, common, Option.map_none]

/-- An array is converted if its elements are and share a type. -/
theorem ofJson_array_converted {elements : List Json}
    (each : ∀ element ∈ elements, Converted element (ofJson element)) :
    Converted (.array elements) (ofJson (.array elements)) := by
  rcases ofElements_cases each with ⟨items, read, types, shown⟩ | ⟨error, refused, reason, types⟩
  · apply converted_of_sharedType items (fun unit => (ofItems unit items).mapError .badValue)
      fun unit => .list unit items
    · rw [ofJson, read]
      rfl
    · rw [Json.inferredType?, types]
      rfl
    · intro unit same
      rw [ofItems_ok_iff.mpr ⟨same, rfl⟩]
      rfl
    · intro unit
      rw [untyped?, shown]
      rfl
  · have failed : ofJson (.array elements) = .error error := by
      rw [ofJson, refused]
      rfl
    rw [failed]
    refine .refused ?_ reason
    rw [Json.inferredType?, types]
    rfl

/-- An object in order is converted if its members are and share a type. -/
theorem ofJson_object_converted {members : List (String × Json)}
    (ascending : Entries.Ascending (members.map (·.1)))
    (each : ∀ member ∈ members, Converted member.2 (ofJson member.2)) :
    Converted (.object members) (ofJson (.object members)) := by
  rcases ofMembers_cases each with
    ⟨entries, read, types, shown, occupied⟩ | ⟨error, refused, reason, types⟩
  · apply converted_of_sharedType (entries.flatMap (·.2))
      (fun unit => (ofEntries unit entries).mapError .badValue) fun unit => .map unit entries
    · rw [ofJson, ofMembers_inOrder ascending, read]
      rfl
    · rw [Json.inferredType?, types]
      rfl
    · intro unit same
      have kept : (entries.filter fun entry => !entry.2.isEmpty) = entries := by
        rw [List.filter_eq_self]
        intro entry member
        simpa using occupied entry member
      have made : ofEntries unit entries = .ok (.map unit entries) := by
        rw [ofEntries_ok_iff, kept]
        exact ⟨fun entry member value inside =>
          same value (List.mem_flatMap_of_mem member inside), rfl⟩
      rw [made]
      rfl
    · intro unit
      rw [untyped?, shown]
      rfl
  · have failed : ofJson (.object members) = .error error := by
      rw [ofJson, ofMembers_inOrder ascending, refused]
      rfl
    rw [failed]
    refine .refused ?_ reason
    rw [Json.inferredType?, types]
    rfl

/-- Data in order is converted exactly if it suggests a type, and then shows again in its
value.

Proof: by induction on the data. What is in an array or object is converted one by one.
Its types have a common one exactly if the values share it, and then nothing is left that
making the list or map could refuse. -/
theorem ofJson_converted {json : Json} (ordered : json.Ordered) :
    Converted json (ofJson json) := by
  induction json with
  | null => exact .converted rfl rfl
  | bool truth => exact .converted rfl rfl
  | number number => exact ofJson_number_converted number
  | string text => exact .converted rfl rfl
  | array elements inductionHypothesis =>
    cases ordered with
    | array _ inside =>
      exact ofJson_array_converted fun element member =>
        inductionHypothesis element member (inside element member)
  | object members inductionHypothesis =>
    cases ordered with
    | object _ inside ascending =>
      exact ofJson_object_converted ascending fun member isMember =>
        inductionHypothesis member isMember (inside member isMember)

/-- Conversion loses nothing and infers one type. Data can be converted if and only if it
suggests a type; its value is then well formed and of that type, and without its types
shows the data again. If it cannot be converted, the reason is a number that is no word or
two types that differ, and never that a list or map could not be made. -/
theorem ofJson_exact {json : Json} (ordered : json.Ordered) :
    ((∃ value, ofJson json = .ok value) ↔ ∃ type, json.inferredType? = some type) ∧
    (∀ value, ofJson json = .ok value →
      value.WellFormed ∧ json.inferredType? = some value.signature ∧
        value.untyped? = some json) ∧
    (∀ error, ofJson json = .error error →
      (∃ text, error = .unsupportedNumber text) ∨
        ∃ first other, error = .mixedTypes first other ∧ other ≠ first) := by
  have outcome := ofJson_converted ordered
  refine ⟨⟨?typed, ?convertible⟩, ?converted, ?refused⟩
  case typed =>
    rintro ⟨value, read⟩
    rw [read] at outcome
    cases outcome with
    | converted typed _ => exact ⟨value.signature, typed⟩
  case convertible =>
    rintro ⟨type, typed⟩
    rcases read : ofJson json with error | value
    · rw [read] at outcome
      cases outcome with
      | refused untyped _ => cases untyped.symm.trans typed
    · exact ⟨value, rfl⟩
  case converted =>
    intro value read
    rw [read] at outcome
    cases outcome with
    | converted typed shown => exact ⟨ofJson_sound read, typed, shown⟩
  case refused =>
    intro error read
    rw [read] at outcome
    cases outcome with
    | refused _ reason =>
      cases reason with
      | number text => exact .inl ⟨text, rfl⟩
      | mixed first other differ => exact .inr ⟨first, other, rfl, differ⟩

/-- Rows under a name, of which one is empty. -/
def emptyRow : Json := .object [("rows", .array [.array [], .array [.string "a", .string "b"]])]

/-- The empty row is taken for strings and so is of the type of the other. -/
theorem ofJson_exact_emptyRow :
    emptyRow.Ordered ∧ emptyRow.inferredType? = some (.map (.list (.list .string))) ∧
      ∃ value, ofJson emptyRow = .ok value ∧ value.WellFormed ∧
        value.signature = .map (.list (.list .string)) ∧ value.untyped? = some emptyRow := by
  have texts : ∀ item ∈ [Json.string "a", Json.string "b"], item.Ordered :=
    List.forall_mem_cons.mpr ⟨.string _, List.forall_mem_singleton.mpr (.string _)⟩
  have rows : ∀ row ∈ [Json.array [], Json.array [.string "a", .string "b"]], row.Ordered :=
    List.forall_mem_cons.mpr
      ⟨.array _ (List.forall_mem_nil _), List.forall_mem_singleton.mpr (.array _ texts)⟩
  have ordered : emptyRow.Ordered :=
    .object _ (List.forall_mem_singleton.mpr (.array _ rows)) trivial
  have typed : emptyRow.inferredType? = some (.map (.list (.list .string))) := rfl
  obtain ⟨convertible, exactly, _⟩ := ofJson_exact ordered
  obtain ⟨value, read⟩ := convertible.mpr ⟨_, typed⟩
  obtain ⟨formed, same, shown⟩ := exactly value read
  exact ⟨ordered, typed, value, read, formed, Option.some.inj (same.symm.trans typed), shown⟩

/-- What is empty is taken for strings, so it does not go together with numbers. -/
example : (Json.array [.array [], .array [.integer 1]]).inferredType? = none := rfl

end Value

end RuleTree
