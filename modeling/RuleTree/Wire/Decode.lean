import RuleTree.Wire.Encode

/-!
# Decoding values

What is encoded is decoded strictly. A structure is read from an object, or from
an array of its fields in order; unknown members are ignored, and null means
that an optional field is absent. The members of an object are visited in the
order of their names, and the first fault found is the one reported.

An element of a list or map is checked in full before the next is looked at.
Only when all elements of a level have been decoded are their types compared
with the unit type.
-/

namespace RuleTree.Wire

/-- What a JSON value is where something else is expected. -/
def foundIn : Json → Found
  | .null => .null
  | .bool value => .boolean value
  | .number (.integer value) => .integer value
  | .number (.double value) => .double value.toText
  | .string text => .string text
  | .array _ => .sequence
  | .object _ => .map

/-- The error of finding one thing where another is expected. -/
def invalidType {α : Type} (found : Found) (expected : String) : Except DecodeError α :=
  .error (.badStructure (.invalidType found expected))

/-- The base type of that name. -/
def baseNamed (name : String) : Except DecodeError BaseType :=
  match BaseType.ofName? name with
  | some base => .ok base
  | none => .error (.badStructure (.unknownBaseType name))

/-- The names under which structures appear in messages. -/
def signatureStruct : String := "struct SignatureRepr"

/-- The name of the structure of an encoded value in messages. -/
def valueStruct : String := "struct ValueRepr"

/-- The error of an array that ends before the first field of a structure. -/
def tooShort {α : Type} (struct : String) : Except DecodeError α :=
  .error (.badStructure (.invalidLength 0 (struct ++ " with 2 elements")))

/-- The error of an array that goes on after the last field of a structure. -/
def tooLong {α : Type} (length : Nat) : Except DecodeError α :=
  .error (.badStructure (.invalidLength length "fewer elements in array"))

/-- A base type: its name, or an object with its name as the only member and null
as its value. -/
def decodeBase : Json → Except DecodeError BaseType
  | .string name => baseNamed name
  | .object [(name, value)] => do
    let base ← baseNamed name
    match value with
    | .null => .ok base
    | value => invalidType (foundIn value) "unit"
  | .object _ => .error (.badStructure .notSingleKey)
  | json => invalidType (foundIn json) "string or map"

/-- The fields of a structure that have been read. -/
structure Fields (α β : Type) where
  first : Option α
  second : Option β

/-- A required field that has been read. -/
def required {α : Type} (name : String) : Option α → Except DecodeError α
  | some value => .ok value
  | none => .error (.badStructure (.missingField name))

mutual
/-- A chain of levels. -/
def decodeLevel : Json → Except DecodeError Level
  | .object members => do
    let fields ← decodeLevelFields ⟨none, none⟩ members
    let base ← required baseField fields.first
    .ok (.make base (fields.second.getD none))
  | .array [] => tooShort signatureStruct
  | .array [first] => do
    let base ← decodeBase first
    .ok (.last base)
  | .array (first :: second :: rest) => do
    let base ← decodeBase first
    let unit ← decodeUnit second
    if rest.isEmpty then .ok (.make base unit) else tooLong (rest.length + 2)
  | json => invalidType (foundIn json) signatureStruct

/-- The level below another, where null means none. -/
def decodeUnit : Json → Except DecodeError (Option Level)
  | .null => .ok none
  | json => do
    let unit ← decodeLevel json
    .ok (some unit)

/-- The fields of a level among the members of an object. -/
def decodeLevelFields (fields : Fields BaseType (Option Level)) :
    List (String × Json) → Except DecodeError (Fields BaseType (Option Level))
  | [] => .ok fields
  | (name, value) :: rest =>
    if name = baseField then do
      let base ← decodeBase value
      decodeLevelFields { fields with first := some base } rest
    else if name = unitField then do
      let unit ← decodeUnit value
      decodeLevelFields { fields with second := some unit } rest
    else decodeLevelFields fields rest
end

/-- The type of a chain that has been read. A fault in it counts as one of the
structure. -/
def typeOf (level : Level) : Except DecodeError Signature :=
  level.signature.mapError fun fault => .badStructure (.unit fault)

/-- A type. Its chain is read in full before it is turned into a type. -/
def decodeSignature (json : Json) : Except DecodeError Signature := do
  let level ← decodeLevel json
  typeOf level

/-- The error of a payload that no value of the type has. -/
def invalidPayload {α : Type} (type : Signature) (payload : Json) : Except DecodeError α :=
  .error (.invalidPayload type.base payload.compact)

/-- The error of elements that do not fit the unit type. -/
def elementError : ValueError → DecodeError
  | .typeMismatch expected found => .elementType expected found
  | error => .badValue error

/-- The value of a payload that is a scalar, or no payload of a scalar at all. -/
def decodeScalar (type : Signature) (payload : Json) : Except DecodeError Value :=
  match type, payload with
  | type, .null => .ok (.nil type)
  | .boolean, .bool value => .ok (.boolean value)
  | .integer, .number number =>
    match number.word? with
    | some word => .ok (.integer word)
    | none => .error (.unsupportedNumber number.toText)
  | .string, .string text => .ok (.string text)
  | .regexp, .string pattern =>
    match Matcher.compile? pattern with
    | some matcher => .ok (.regexp matcher)
    | none => .error (.invalidRegexp pattern)
  | type, payload => invalidPayload type payload

mutual
/-- The value of a payload under a type. -/
def decode (type : Signature) (payload : Json) : Except DecodeError Value :=
  match payload with
  | .array elements =>
    match type with
    | .list unit => do
      let items ← decodeElements elements
      (Value.ofItems unit items).mapError elementError
    | type => invalidPayload type (.array elements)
  | .object members =>
    match type with
    | .map unit => do
      let entries ← decodeEntries [] members
      (Value.ofEntries unit entries).mapError elementError
    | type => invalidPayload type (.object members)
  | payload => decodeScalar type payload

/-- An encoded value. -/
def decodeValue : Json → Except DecodeError Value
  | .object members => decodeFields none members
  | .array [] => tooShort valueStruct
  | .array [first] => do
    let type ← decodeSignature first
    .ok (.nil type)
  | .array [first, payload] => do
    let type ← decodeSignature first
    decode type payload
  | .array (first :: _ :: _ :: rest) => do
    let _ ← decodeSignature first
    tooLong (rest.length + 3)
  | json => invalidType (foundIn json) valueStruct

/-- The value whose fields are among the members of an object. Members are in the
order of their names, so the type comes before the payload. -/
def decodeFields (type : Option Signature) : List (String × Json) → Except DecodeError Value
  | [] => do
    let type ← required typeField type
    .ok (.nil type)
  | (name, value) :: rest =>
    if name = typeField then do
      let type ← decodeSignature value
      decodeFields (some type) rest
    else if name = valueField then do
      let type ← required typeField type
      decode type value
    else decodeFields type rest

/-- Encoded values in order. -/
def decodeElements : List Json → Except DecodeError (List Value)
  | [] => .ok []
  | element :: rest => do
    let value ← decodeValue element
    let values ← decodeElements rest
    .ok (value :: values)

/-- The values under a name. They have to be in an array, and in one that is not empty. -/
def decodeEntry (name : String) : Json → Except DecodeError (List Value)
  | .array elements =>
    if elements.isEmpty then .error (.emptyMapEntry name) else decodeElements elements
  | other => invalidPayload (.map .nil) other

/-- The entries with those of further members, which are inserted one after another. -/
def decodeEntries (entries : List (String × List Value)) :
    List (String × Json) → Except DecodeError (List (String × List Value))
  | [] => .ok entries
  | (name, held) :: rest => do
    let values ← decodeEntry name held
    decodeEntries (Entries.insert name values entries) rest
end

end RuleTree.Wire
