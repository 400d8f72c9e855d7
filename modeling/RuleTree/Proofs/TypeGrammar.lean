import RuleTree.Wire.Decode
import RuleTree.Proofs.OrderedJson
import RuleTree.Proofs.Outcome

/-!
# The grammar of encoded types

`DenotesType` says which JSON values are types on the wire, and which types they are, as a
grammar: without chains of levels, without errors and without an order in which anything is
read. A type is its base type together with what is below it, and what is below it is a type
or null. Reading a type goes through a chain of levels, which is turned into a type once it
has been read in full; on JSON values in order it reads what the grammar says and nothing
else.
-/

namespace RuleTree.Wire

/-- A base type is denoted by its name, or by an object with its name as the only member and
null as its value. -/
inductive DenotesBase : Json → BaseType → Prop
  | name (base : BaseType) : DenotesBase (.string base.name) base
  | member (base : BaseType) : DenotesBase (.object [(base.name, .null)]) base

mutual
/-- A type is denoted by its base type and what is below it: as members of an object, or as
the items of an array in this order. What is not there is null. -/
inductive DenotesType : Json → Signature → Prop
  | object (members : List (String × Json)) (held : Json) (type : Signature)
      (present : members.lookup baseField = some held) (base : DenotesBase held type.base)
      (below : DenotesUnit ((members.lookup unitField).getD .null) type.unit?) :
      DenotesType (.object members) type
  | single (first : Json) (type : Signature) (base : DenotesBase first type.base)
      (below : DenotesUnit .null type.unit?) : DenotesType (.array [first]) type
  | pair (first second : Json) (type : Signature) (base : DenotesBase first type.base)
      (below : DenotesUnit second type.unit?) : DenotesType (.array [first, second]) type

/-- The unit type of a list or map is denoted as every type is, and that there is none is
denoted by null. -/
inductive DenotesUnit : Json → Option Signature → Prop
  | none : DenotesUnit .null none
  | some (json : Json) (unit : Signature) (denotes : DenotesType json unit) :
      DenotesUnit json (some unit)
end

/-! ## Chains of levels -/

/-- The chain of a type is the level of its base type over the chain of its unit type. -/
theorem ofSignature_eq_make (type : Signature) :
    Level.ofSignature type = .make type.base (type.unit?.map Level.ofSignature) := by
  cases type <;> rfl

/-- A level has one base type, and one level below it or none. -/
theorem make_inj {base base' : BaseType} {below below' : Option Level} :
    Level.make base below = .make base' below' ↔ base = base' ∧ below = below' := by
  cases below <;> cases below' <;> simp [Level.make]

/-- The chain of a type makes the type. -/
theorem signature_ofSignature (type : Signature) :
    (Level.ofSignature type).signature = .ok type := by
  induction type with
  | list unit inductionHypothesis =>
    simp only [Level.ofSignature, Level.signature, inductionHypothesis, bind, Except.bind]
    rfl
  | map unit inductionHypothesis =>
    simp only [Level.ofSignature, Level.signature, inductionHypothesis, bind, Except.bind]
    rfl
  | _ => rfl

/-- A chain makes a type if it is the chain of the type. -/
theorem signature_ok_iff {level : Level} {type : Signature} :
    level.signature = .ok type ↔ level = .ofSignature type := by
  constructor
  · intro made
    induction level generalizing type with
    | last base =>
      obtain ⟨rfl, none⟩ := Signature.ofParts_ok_iff.mp made
      cases type with
      | list unit | map unit => cases none
      | _ => rfl
    | «over» base unit inductionHypothesis =>
      obtain ⟨inner, ofUnit, made⟩ := bind_ok made
      obtain ⟨rfl, some⟩ := Signature.ofParts_ok_iff.mp made
      rw [inductionHypothesis ofUnit]
      cases type <;> cases some <;> rfl
  · rintro rfl
    exact signature_ofSignature type

/-! ## Reading the parts of a level -/

/-- The name of a base type is read back. -/
theorem baseNamed_name (base : BaseType) : baseNamed base.name = .ok base := by
  rw [baseNamed, base.ofName?_name]

/-- A base type is read by its name. -/
theorem baseNamed_ok_iff {name : String} {base : BaseType} :
    baseNamed name = .ok base ↔ name = base.name := by
  constructor
  · intro read
    unfold baseNamed at read
    split at read
    · rename_i found
      cases read
      have named := List.find?_some found
      exact (beq_iff_eq.mp named).symm
    · cases read
  · rintro rfl
    exact baseNamed_name base

/-- A base type is read from what denotes it. -/
theorem decodeBase_ok_iff {json : Json} {base : BaseType} :
    decodeBase json = .ok base ↔ DenotesBase json base := by
  constructor
  · intro read
    match json, read with
    | .string name, read =>
      rw [baseNamed_ok_iff.mp read]
      exact .name base
    | .object [(name, held)], read =>
      obtain ⟨other, named, read⟩ := bind_ok read
      cases held with
      | null =>
        obtain rfl : other = base := Except.ok.inj read
        rw [baseNamed_ok_iff.mp named]
        exact .member other
      | _ => cases read
  · intro denotes
    cases denotes with
    | name => exact baseNamed_name base
    | member =>
      rw [decodeBase, baseNamed_name]
      rfl

/-- A field has been read: from what is held under its name, if anything is, or else it is
as it was before. -/
def FieldRead {α : Type} (read : Json → Except DecodeError α) (before : Option α) :
    Option Json → Option α → Prop
  | none, after => after = before
  | some held, after => ∃ result, read held = .ok result ∧ after = some result

section FieldRead

variable {α : Type} {read : Json → Except DecodeError α} {before after : Option α}

/-- Where nothing is held, nothing changes. -/
@[simp] theorem fieldRead_none : FieldRead read before none after ↔ after = before := Iff.rfl

/-- What is held is read. -/
@[simp] theorem fieldRead_some {held : Json} :
    FieldRead read before (some held) after ↔
      ∃ result, read held = .ok result ∧ after = some result := Iff.rfl

end FieldRead

/-- The fields of a level are read from the members with their names.

Proof: by induction on the members. As they are in order, the name of the first does not
come again, and a field that has been read stays as it is. -/
theorem decodeLevelFields_ok_iff {members : List (String × Json)}
    (ascending : Entries.Ascending (members.map (·.1)))
    {before after : Fields BaseType (Option Level)} :
    decodeLevelFields before members = .ok after ↔
      FieldRead decodeBase before.first (members.lookup baseField) after.first ∧
        FieldRead decodeUnit before.second (members.lookup unitField) after.second := by
  induction members generalizing before with
  | nil =>
    obtain ⟨base, unit⟩ := before
    obtain ⟨base', unit'⟩ := after
    simp [decodeLevelFields, eq_comm]
  | cons member rest inductionHypothesis =>
    obtain ⟨name, held⟩ := member
    obtain ⟨least, ascending⟩ := Entries.ascending_cons.mp ascending
    have once : rest.lookup name = none := Entries.lookup_eq_none fun again =>
      String.lt_irrefl _ (least name again)
    rw [decodeLevelFields, Entries.lookup_cons, Entries.lookup_cons]
    by_cases isBase : name = baseField
    · have different : unitField ≠ name := by rw [isBase]; decide
      rw [if_pos isBase, if_pos isBase.symm, if_neg different, bind_ok_iff]
      simp only [inductionHypothesis ascending, isBase ▸ once, fieldRead_none, fieldRead_some,
        ← and_assoc, exists_and_right]
    · rw [if_neg isBase, if_neg (Ne.symm isBase)]
      by_cases isUnit : name = unitField
      · rw [if_pos isUnit, if_pos isUnit.symm, bind_ok_iff]
        simp only [inductionHypothesis ascending, isUnit ▸ once, fieldRead_none, fieldRead_some,
          and_left_comm, exists_and_left]
      · rw [if_neg isUnit, if_neg (Ne.symm isUnit)]
        exact inductionHypothesis ascending

/-! ## Reading types -/

/-- The base type of a level is read from its member, which has to be there. -/
theorem requiredBase_iff {found : Option Json} {base : BaseType} :
    (∃ field, FieldRead decodeBase none found field ∧ required baseField field = .ok base) ↔
      ∃ held, found = some held ∧ decodeBase held = .ok base := by
  cases found with
  | none => simp [required]
  | some held =>
    constructor
    · rintro ⟨field, ⟨result, read, rfl⟩, given⟩
      cases given
      exact ⟨held, rfl, read⟩
    · rintro ⟨_, same, read⟩
      cases same
      exact ⟨some base, ⟨base, read, rfl⟩, rfl⟩

/-- The level below another is read from its member, or from null if there is none. -/
theorem optionalUnit_iff {found : Option Json} {below : Option Level} :
    (∃ field, FieldRead decodeUnit none found field ∧ field.getD none = below) ↔
      decodeUnit (found.getD .null) = .ok below := by
  cases found with
  | none => simp [decodeUnit]
  | some held =>
    constructor
    · rintro ⟨field, ⟨result, read, rfl⟩, rfl⟩
      exact read
    · intro read
      exact ⟨some below, ⟨below, read, rfl⟩, rfl⟩

/-- A chain of levels is read from the members of an object that are called for. -/
theorem decodeLevel_object_ok_iff {members : List (String × Json)}
    (ascending : Entries.Ascending (members.map (·.1))) {base : BaseType}
    {below : Option Level} :
    decodeLevel (.object members) = .ok (.make base below) ↔
      (∃ held, members.lookup baseField = some held ∧ decodeBase held = .ok base) ∧
        decodeUnit ((members.lookup unitField).getD .null) = .ok below := by
  rw [decodeLevel, ← requiredBase_iff, ← optionalUnit_iff]
  simp only [bind_ok_iff, decodeLevelFields_ok_iff ascending, Except.ok.injEq, make_inj]
  constructor
  · rintro ⟨fields, ⟨baseRead, unitRead⟩, _, given, rfl, same⟩
    exact ⟨⟨fields.first, baseRead, given⟩, fields.second, unitRead, same⟩
  · rintro ⟨⟨first, baseRead, given⟩, second, unitRead, same⟩
    exact ⟨⟨first, second⟩, ⟨baseRead, unitRead⟩, base, given, rfl, same⟩

/-- A chain of levels is read from the items of an array, of which there may be two. -/
theorem decodeLevel_array_ok_iff {items : List Json} {base : BaseType} {below : Option Level} :
    decodeLevel (.array items) = .ok (.make base below) ↔
      ∃ first rest, items = first :: rest ∧ rest.length ≤ 1 ∧ decodeBase first = .ok base ∧
        decodeUnit (rest.head?.getD .null) = .ok below := by
  rcases items with _ | ⟨first, _ | ⟨second, _ | ⟨third, rest⟩⟩⟩
  · simp [decodeLevel, tooShort]
  · have last (other : BaseType) : Level.last other = .make other none := rfl
    simp [decodeLevel, bind_ok_iff, last, make_inj, decodeUnit]
  · simp [decodeLevel, bind_ok_iff, make_inj]
  · simp [decodeLevel, bind_ok_iff, tooLong]

/-- What denotes the unit type of a list or map, or that there is none. -/
theorem denotesUnit_iff {json : Json} {below : Option Signature} :
    DenotesUnit json below ↔
      (json = .null ∧ below = none) ∨ ∃ unit, below = some unit ∧ DenotesType json unit := by
  constructor
  · intro denotes
    cases denotes with
    | none => exact .inl ⟨rfl, rfl⟩
    | some _ unit denotes => exact .inr ⟨unit, rfl, denotes⟩
  · rintro (⟨rfl, rfl⟩ | ⟨unit, rfl, denotes⟩)
    · exact .none
    · exact .some json unit denotes

/-- The chain of a type is read from the JSON value if it denotes the type, and only then. -/
def LevelExact (json : Json) : Prop :=
  ∀ type, decodeLevel json = .ok (.ofSignature type) ↔ DenotesType json type

/-- Only objects and arrays denote types. -/
theorem levelExact_scalar {json : Json} (notObject : ∀ members, json ≠ .object members)
    (notArray : ∀ items, json ≠ .array items) : LevelExact json := by
  intro type
  have noType : ¬DenotesType json type := by
    intro denotes
    cases denotes with
    | object members => exact notObject members rfl
    | single first => exact notArray [first] rfl
    | pair first second => exact notArray [first, second] rfl
  cases json with
  | object members => exact absurd rfl (notObject members)
  | array items => exact absurd rfl (notArray items)
  | _ => simp [decodeLevel, invalidType, noType]

/-- Where types are read exactly, so is whether there is one. -/
theorem LevelExact.unit {json : Json} (exact : LevelExact json) {below : Option Signature} :
    decodeUnit json = .ok (below.map Level.ofSignature) ↔ DenotesUnit json below := by
  rw [denotesUnit_iff]
  by_cases null : json = .null
  · have noType (unit : Signature) : ¬DenotesType .null unit := fun denotes => nomatch denotes
    simp [null, decodeUnit, noType, eq_comm]
  · have readBelow : decodeUnit json = decodeLevel json >>= fun unit => .ok (some unit) := by
      cases json with
      | null => exact absurd rfl null
      | _ => simp only [decodeUnit]
    rw [readBelow, bind_ok_iff]
    cases below with
    | none => simp [null]
    | some unit => simp [null, ← exact unit]

/-- The chains of types are read exactly on every ordered JSON value.

Proof: by induction on the JSON value. What is below a base type is null or a part of the
JSON value. -/
theorem levelExact {json : Json} (ordered : json.Ordered) : LevelExact json := by
  have null : LevelExact .null := levelExact_scalar (by simp) (by simp)
  induction json with
  | object members inductionHypothesis =>
    cases ordered with
    | object _ inside ascending =>
      have below : LevelExact ((members.lookup unitField).getD .null) := by
        cases found : members.lookup unitField with
        | none => exact null
        | some held =>
          have member := Entries.mem_of_lookup found
          exact inductionHypothesis _ member (inside _ member)
      intro type
      rw [ofSignature_eq_make, decodeLevel_object_ok_iff ascending, below.unit]
      constructor
      · rintro ⟨⟨held, present, base⟩, below⟩
        exact .object members held type present (decodeBase_ok_iff.mp base) below
      · intro denotes
        cases denotes with
        | object _ held _ present base below =>
          exact ⟨⟨held, present, decodeBase_ok_iff.mpr base⟩, below⟩
  | array items inductionHypothesis =>
    cases ordered with
    | array _ inside =>
      intro type
      rw [ofSignature_eq_make, decodeLevel_array_ok_iff]
      constructor
      · rintro ⟨first, rest, rfl, short, base, below⟩
        rcases rest with _ | ⟨second, _ | ⟨third, rest⟩⟩
        · exact .single first type (decodeBase_ok_iff.mp base) (null.unit.mp below)
        · have exact : LevelExact second :=
            inductionHypothesis second (by simp) (inside second (by simp))
          exact .pair first second type (decodeBase_ok_iff.mp base) (exact.unit.mp below)
        · simp at short
      · intro denotes
        cases denotes with
        | single first _ base below =>
          exact ⟨first, [], rfl, by simp, decodeBase_ok_iff.mpr base, null.unit.mpr below⟩
        | pair first second _ base below =>
          have exact : LevelExact second :=
            inductionHypothesis second (by simp) (inside second (by simp))
          exact ⟨first, [second], rfl, by simp, decodeBase_ok_iff.mpr base,
            exact.unit.mpr below⟩
  | _ => exact levelExact_scalar (by simp) (by simp)

/-- A type is read from what denotes it, and from nothing else. -/
theorem decodeSignature_ok_iff {json : Json} (ordered : json.Ordered) {type : Signature} :
    decodeSignature json = .ok type ↔ DenotesType json type := by
  simp only [← levelExact ordered type, decodeSignature, bind_ok_iff, typeOf, mapError_ok_iff,
    signature_ok_iff, exists_eq_right]

end RuleTree.Wire
