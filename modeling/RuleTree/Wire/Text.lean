import RuleTree.Json.Reader
import RuleTree.Wire.Decode

/-!
# Decoding values from text

Text is decoded as it is read. The first fault in the order of the text counts,
be it one of JSON, which says only whether the text ended too early, or one of
the structure, which has a message. A payload is read as a JSON value and is
looked into only once the whole object around it has been read.

Members of structures are taken in the order of the text, so a member may be
seen twice, which is a fault unless its name means nothing.
-/

namespace RuleTree.Wire

open Json (Token)

/-- What can be wrong with a text. -/
inductive ReadError
  | text (fault : TextFault)
  | data (error : DecodeError)
  deriving DecidableEq

/-- The fault of tokens that are not what is looked for. -/
def unexpected : List Token → TextFault
  | [] => .ended
  | _ :: _ => .malformed

/-- The failure of JSON itself. -/
def failText {α : Type} (fault : TextFault) : Except ReadError α := .error (.text fault)

/-- The failure of the structure. -/
def failStructure {α : Type} (error : StructureError) : Except ReadError α :=
  .error (.data (.badStructure error))

/-- A result whose failure is one of JSON. -/
def ofText {α : Type} : Except TextFault α → Except ReadError α
  | .ok value => .ok value
  | .error fault => failText fault

/-- A result whose failure is one of the data. -/
def ofData {α : Type} : Except DecodeError α → Except ReadError α
  | .ok value => .ok value
  | .error error => .error (.data error)

/-- The failure of tokens that begin something else than expected. What they begin
is described if it can be told. -/
def failType {α : Type} (expected : String) : List Token → Except ReadError α
  | [] => failText .ended
  | token :: _ =>
    let found (found : Found) : Except ReadError α := failStructure (.invalidType found expected)
    match token with
    | .word value => found (foundIn value)
    | .number digits =>
      match digits.number? with
      | some number => found (foundIn (.number number))
      | none => failText .malformed
    | .string (.ok text) _ => found (.string text)
    | .string (.error fault) _ => failText fault
    | .openArray => found .sequence
    | .openObject => found .map
    | .brokenWord fault | .brokenNumber fault => failText fault
    | .closeArray | .closeObject | .comma | .colon | .stray => failText .malformed

/-- Read a given sign. -/
def readComma : List Token → Except ReadError (List Token)
  | .comma :: rest => .ok rest
  | rest => failText (unexpected rest)

/-- Read a colon. -/
def readColon : List Token → Except ReadError (List Token)
  | .colon :: rest => .ok rest
  | rest => failText (unexpected rest)

/-- How the two fields of a structure are named and read. -/
structure Struct (α β : Type) where
  name : String
  firstName : String
  secondName : String
  readFirst : List Token → Except ReadError (α × List Token)
  readSecond : List Token → Except ReadError (β × List Token)

/-- Read the value of a member after its name. A field may not be seen twice; the
value of a name that means nothing is passed over. -/
def Struct.readMember {α β : Type} (struct : Struct α β) (fields : Fields α β) (name : String)
    (tokens : List Token) : Except ReadError (Fields α β × List Token) :=
  if name = struct.firstName then
    if fields.first.isSome then failStructure (.duplicateField name)
    else do
      let rest ← readColon tokens
      let (value, rest) ← struct.readFirst rest
      .ok ({ fields with first := some value }, rest)
  else if name = struct.secondName then
    if fields.second.isSome then failStructure (.duplicateField name)
    else do
      let rest ← readColon tokens
      let (value, rest) ← struct.readSecond rest
      .ok ({ fields with second := some value }, rest)
  else do
    let rest ← readColon tokens
    let rest ← ofText (Json.passValue rest)
    .ok (fields, rest)

/-- Read the members of an object, after its opening or after a member. The fuel
bounds their number. -/
def Struct.readMembers {α β : Type} (struct : Struct α β) (isFirst : Bool) :
    Nat → Fields α β → List Token → Except ReadError (Fields α β × List Token)
  | 0, _, _ => failText .malformed
  | _ + 1, _, [] => failText .ended
  | _ + 1, fields, .closeObject :: rest => .ok (fields, rest)
  | fuel + 1, fields, tokens => do
    let tokens ← if isFirst then .ok tokens else readComma tokens
    match tokens with
    | .string text _ :: rest =>
      let name ← ofText text
      let (fields, rest) ← struct.readMember fields name rest
      readMembers struct false fuel fields rest
    | tokens => failText (unexpected tokens)

/-- Read the fields of an array, after its opening. The second may be missing. -/
def Struct.readItems {α β : Type} (struct : Struct α β) (tokens : List Token) :
    Except ReadError ((α × Option β) × List Token) :=
  match tokens with
  | .closeArray :: _ => ofData (tooShort struct.name)
  | [] => failText .ended
  | tokens => do
    let (first, rest) ← struct.readFirst tokens
    match rest with
    | .closeArray :: rest => .ok ((first, none), rest)
    | rest =>
      match ← readComma rest with
      | .closeArray :: _ => failText .malformed
      | rest =>
        let (second, rest) ← struct.readSecond rest
        match rest with
        | .closeArray :: rest => .ok ((first, some second), rest)
        | rest => failText (unexpected rest)

/-- Read a structure that opens one array or object more, if there is room. -/
def Struct.read {α β : Type} (struct : Struct α β) (room : Nat) (tokens : List Token) :
    Except ReadError ((α × Option β) × List Token) :=
  match tokens with
  | .openObject :: rest =>
    if room = 0 then failText .malformed
    else do
      let (fields, rest) ← struct.readMembers true (rest.length + 1) ⟨none, none⟩ rest
      let first ← ofData (required struct.firstName fields.first)
      .ok ((first, fields.second), rest)
  | .openArray :: rest => if room = 0 then failText .malformed else struct.readItems rest
  | tokens => failType struct.name tokens

/-- Read the name of a base type, wherever it stands. -/
def readBaseName : List Token → Except ReadError (BaseType × List Token)
  | .string text _ :: rest => do
    let name ← ofText text
    let base ← ofData (baseNamed name)
    .ok (base, rest)
  | tokens => failType "variant identifier" tokens

/-- Read a base type: its name, or an object with its name and null. -/
def readBase (room : Nat) (tokens : List Token) : Except ReadError (BaseType × List Token) :=
  match tokens with
  | .string _ _ :: _ => readBaseName tokens
  | .openObject :: rest =>
    if room = 0 then failText .malformed
    else do
      let (base, rest) ← readBaseName rest
      match ← readColon rest with
      | .word .null :: .closeObject :: rest => .ok (base, rest)
      | .word .null :: rest => failText (unexpected rest)
      | rest => failType "unit" rest
  | tokens => failText (unexpected tokens)

/-- Read what may be null instead. -/
def readOptional {α : Type} (read : List Token → Except ReadError (α × List Token))
    (tokens : List Token) : Except ReadError (Option α × List Token) :=
  match tokens with
  | .word .null :: rest => .ok (none, rest)
  | tokens => do
    let (value, rest) ← read tokens
    .ok (some value, rest)

/-- How a chain of levels is read where so many arrays and objects may be opened. -/
def levelStruct (readUnit : List Token → Except ReadError (Level × List Token)) (room : Nat) :
    Struct BaseType (Option Level) where
  name := signatureStruct
  firstName := baseField
  secondName := unitField
  readFirst := readBase room
  readSecond := readOptional readUnit

/-- Read a chain of levels. -/
def readLevel : (room : Nat) → List Token → Except ReadError (Level × List Token)
  | 0, tokens => failLevel tokens
  | room + 1, tokens => do
    let ((base, unit), rest) ← (levelStruct (readLevel room) room).read (room + 1) tokens
    .ok (.make base (unit.getD none), rest)
where
  /-- Without room no structure can be opened; anything else is of the wrong type. -/
  failLevel : List Token → Except ReadError (Level × List Token)
    | .openObject :: _ | .openArray :: _ => failText .malformed
    | tokens => failType signatureStruct tokens

/-- Read a type. -/
def readSignature (room : Nat) (tokens : List Token) :
    Except ReadError (Signature × List Token) := do
  let (level, rest) ← readLevel room tokens
  let type ← ofData (typeOf level)
  .ok (type, rest)

/-- Read a payload as a JSON value. -/
def readPayload (room : Nat) (tokens : List Token) : Except ReadError (Json × List Token) :=
  ofText (Json.readValue room tokens)

/-- How an encoded value is read where one array or object is open around its
fields. -/
def encodedStruct : Struct Signature (Option Json) where
  name := valueStruct
  firstName := typeField
  secondName := valueField
  readFirst := readSignature (Json.maxOpen - 1)
  readSecond := readOptional (readPayload (Json.maxOpen - 1))

/-- The value that a whole text encodes. -/
def decodeText (text : String) : Except ReadError Value := do
  let ((type, payload), rest) ← encodedStruct.read Json.maxOpen (Json.tokens text)
  let value ← ofData (decode type ((payload.getD none).getD .null))
  if rest.isEmpty then .ok value else failText .malformed

end RuleTree.Wire
