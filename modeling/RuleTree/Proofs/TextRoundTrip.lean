import RuleTree.Wire.Text
import RuleTree.Proofs.TokenReading
import RuleTree.Proofs.WireRoundTrip

/-!
# Writing values as text and reading them again

The text of an encoded value is read back as the value if no more arrays and
objects are open in it at once than a reader allows. If there are more, the text
is refused as malformed, although nothing but its depth is wrong. Every level of a
type opens an object, so a short value of a deep type is enough for it.

Reading decodes tokens directly and looks into the payload as a JSON value. For
each reader there is one law, which says that it takes the tokens of what it looks
for exactly if there is room.
-/

namespace RuleTree.Wire

open Json (Plain tokensOf)

/-! ## Encoded values are plain -/

/-- An encoded chain of levels is plain. -/
theorem plain_encodeLevel (level : Level) : (encodeLevel level).Plain := by
  have ordered : baseField < unitField := by decide
  induction level with
  | last base =>
    exact .object _ (List.forall_mem_singleton.mpr (.string _)) trivial
  | «over» base unit inductionHypothesis =>
    exact .object _ (List.forall_mem_cons.mpr ⟨.string _,
      List.forall_mem_singleton.mpr inductionHypothesis⟩) ⟨ordered, trivial⟩

/-- An encoded value with a plain payload is plain. -/
theorem plain_withPayload (type : Signature) {payload : Json} (plain : payload.Plain) :
    (withPayload type payload).Plain := by
  have ordered : typeField < valueField := by decide
  exact .object _ (List.forall_mem_cons.mpr ⟨plain_encodeLevel _,
    List.forall_mem_singleton.mpr plain⟩) ⟨ordered, trivial⟩

/-- Encoded items are plain if each is. -/
theorem plain_encodeItems {items : List Value} (each : ∀ item ∈ items, (encode item).Plain) :
    ∀ json ∈ encodeItems items, json.Plain := by
  induction items with
  | nil => exact List.forall_mem_nil _
  | cons item rest inductionHypothesis =>
    obtain ⟨here, others⟩ := List.forall_mem_cons.mp each
    exact List.forall_mem_cons.mpr ⟨here, inductionHypothesis others⟩

/-- Encoded entries are plain if each of their values is. -/
theorem plain_encodeEntries {entries : List (String × List Value)}
    (each : ∀ entry ∈ entries, ∀ value ∈ entry.2, (encode value).Plain) :
    ∀ member ∈ encodeEntries entries, member.2.Plain := by
  induction entries with
  | nil => exact List.forall_mem_nil _
  | cons entry rest inductionHypothesis =>
    obtain ⟨here, others⟩ := List.forall_mem_cons.mp each
    exact List.forall_mem_cons.mpr
      ⟨.array _ (plain_encodeItems here), inductionHypothesis others⟩

/-- What a well-formed value is encoded to is plain. -/
theorem plain_encode {value : Value} (formed : value.WellFormed) : (encode value).Plain := by
  induction value with
  | nil type =>
    exact .object _ (List.forall_mem_singleton.mpr (plain_encodeLevel _)) trivial
  | boolean payload => exact plain_withPayload _ (.bool payload)
  | integer payload => exact plain_withPayload _ (.integer _ (Numeral.fitsWord_toInt payload))
  | string payload => exact plain_withPayload _ (.string payload)
  | regexp payload => exact plain_withPayload _ (.string payload.source)
  | list unit items inductionHypothesis =>
    cases formed with
    | list _ _ inside =>
      have each := Value.allOf_iff.mp inside
      exact plain_withPayload _ (.array _ (plain_encodeItems fun item member =>
        inductionHypothesis item member (each item member).formed))
  | map unit entries inductionHypothesis =>
    cases formed with
    | map _ _ inside ordered =>
      have each := Value.entriesOf_iff.mp inside
      refine plain_withPayload _ (.object _ (plain_encodeEntries fun entry member value held =>
        inductionHypothesis entry member value held ((each entry member).2 value held).formed) ?_)
      rwa [names_encodeEntries]

/-! ## Readers -/

/-- A reader takes the tokens of a JSON value for a result if there is room for what
they open, and otherwise refuses the text. -/
def Takes {α : Type} (read : List Json.Token → Except ReadError (α × List Json.Token))
    (room : Nat) (json : Json) (result : α) : Prop :=
  ∀ rest, read (tokensOf json ++ rest) =
    if json.depth ≤ room then .ok (result, rest) else failText .malformed

section Readers

variable {α β : Type} {read : List Json.Token → Except ReadError (α × List Json.Token)}
  {room : Nat} {json : Json} {result : α}

/-- What is made of a result without looking at further tokens is taken as well. -/
theorem Takes.followed (takes : Takes read room json result) (next : α → Except ReadError β)
    {made : β} (follows : next result = .ok made) :
    Takes (fun tokens => do
      let (value, rest) ← read tokens
      let value ← next value
      .ok (value, rest)) room json made := by
  intro rest
  simp only [takes rest]
  split
  · simp only [follows, bind, Except.bind]
  · rfl

/-- What is plain and not null is taken where it could be null. -/
theorem Takes.optional (takes : Takes read room json result) (plain : json.Plain)
    (present : json ≠ .null) : Takes (readOptional read) room json (some result) := by
  intro rest
  have through : readOptional read (tokensOf json ++ rest) =
      read (tokensOf json ++ rest) >>= fun (value, rest) => .ok (some value, rest) := by
    cases plain with
    | null => exact absurd rfl present
    | array items => cases items <;> rfl
    | object members => rcases members with _ | ⟨⟨name, value⟩, members⟩ <;> rfl
    | _ => rfl
  rw [through, takes rest]
  split <;> rfl

end Readers

section Structures

variable {α β : Type} (struct : Struct α β) {room : Nat} {ofFirst ofSecond : Json}
  {first : α} {second : β}

/-- A structure with its first field alone is taken if the field is, inside of what
the structure opens. -/
theorem takes_first (takes : Takes struct.readFirst room ofFirst first) :
    Takes (struct.read (room + 1)) (room + 1) (.object [(struct.firstName, ofFirst)])
      (first, none) := by
  intro rest
  have here := takes (.closeObject :: rest)
  have depth : (Json.object [(struct.firstName, ofFirst)]).depth ≤ room + 1 ↔
      ofFirst.depth ≤ room := by
    simp [Json.depth, Json.depthOfMembers]
  by_cases fits : ofFirst.depth ≤ room
  · rw [if_pos fits] at here
    rw [if_pos (depth.mpr fits)]
    simp [tokensOf, Json.memberTokens, Struct.read, Struct.readMembers, Struct.readMember,
      readColon, here, bind, Except.bind, ofText, ofData, required]
  · rw [if_neg fits] at here
    rw [if_neg (fun all => fits (depth.mp all))]
    simp [tokensOf, Json.memberTokens, Struct.read, Struct.readMembers, Struct.readMember,
      readColon, here, bind, Except.bind, ofText, failText]

/-- A structure with both fields is taken if the fields are. -/
theorem takes_both (different : struct.secondName ≠ struct.firstName)
    (takesFirst : Takes struct.readFirst room ofFirst first)
    (takesSecond : Takes struct.readSecond room ofSecond second) :
    Takes (struct.read (room + 1)) (room + 1)
      (.object [(struct.firstName, ofFirst), (struct.secondName, ofSecond)])
      (first, some second) := by
  intro rest
  have here := takesFirst (.comma :: .string (.ok struct.secondName) (.ok ()) :: .colon ::
    (tokensOf ofSecond ++ .closeObject :: rest))
  have next := takesSecond (.closeObject :: rest)
  have depth :
      (Json.object [(struct.firstName, ofFirst), (struct.secondName, ofSecond)]).depth ≤ room + 1 ↔
        ofFirst.depth ≤ room ∧ ofSecond.depth ≤ room := by
    simp only [Json.depth, Json.depthOfMembers, Nat.add_le_add_iff_right]
    omega
  by_cases fits : ofFirst.depth ≤ room
  · rw [if_pos fits] at here
    by_cases fitsSecond : ofSecond.depth ≤ room
    · rw [if_pos fitsSecond] at next
      rw [if_pos (depth.mpr ⟨fits, fitsSecond⟩)]
      simp [tokensOf, Json.memberTokens, Struct.read, Struct.readMembers, Struct.readMember,
        readColon, readComma, different, here, next, bind, Except.bind, ofText, ofData, required]
    · rw [if_neg fitsSecond] at next
      rw [if_neg (fun all => fitsSecond (depth.mp all).2)]
      simp [tokensOf, Json.memberTokens, Struct.read, Struct.readMembers, Struct.readMember,
        readColon, readComma, different, here, next, bind, Except.bind, ofText, failText]
  · rw [if_neg fits] at here
    rw [if_neg (fun all => fits (depth.mp all).1)]
    simp [tokensOf, Json.memberTokens, Struct.read, Struct.readMembers, Struct.readMember,
      readColon, here, bind, Except.bind, ofText, failText]

end Structures

/-- The name of a base type is taken. -/
theorem takes_base (room : Nat) (base : BaseType) :
    Takes (readBase room) room (.string base.name) base := by
  intro rest
  rw [if_pos (show (Json.string base.name).depth ≤ room from Nat.zero_le room)]
  simp [tokensOf, readBase, readBaseName, ofText, ofData, baseNamed_name, bind, Except.bind]

/-- The level of the two fields of its structure. -/
def levelOf (fields : BaseType × Option (Option Level)) : Except ReadError Level :=
  .ok (.make fields.1 (fields.2.getD none))

/-- A chain of levels is taken.

Proof: by induction on the chain. Each level opens one object around the next, and
the reader of a level has room for one less below it. -/
theorem takes_level (level : Level) (room : Nat) :
    Takes (readLevel room) room (encodeLevel level) level := by
  induction level generalizing room with
  | last base =>
    cases room with
    | zero => exact fun rest => rfl
    | succ room =>
      have fields := takes_first (levelStruct (readLevel room) room) (takes_base room base)
      exact fields.followed levelOf rfl
  | «over» base unit inductionHypothesis =>
    cases room with
    | zero => exact fun rest => rfl
    | succ room =>
      obtain ⟨members, written⟩ := encodeLevel_object unit
      have present : encodeLevel unit ≠ .null := by simp [written]
      have below := (inductionHypothesis room).optional (plain_encodeLevel unit) present
      have different : unitField ≠ baseField := by decide
      have fields := takes_both (levelStruct (readLevel room) room) different
        (takes_base room base) below
      exact fields.followed levelOf rfl

/-- A type is taken. -/
theorem takes_signature (type : Signature) (room : Nat) :
    Takes (readSignature room) room (encodeSignature type) type := by
  have made : typeOf (.ofSignature type) = .ok type := by
    simp only [typeOf, signature_ofSignature]
    rfl
  exact (takes_level (.ofSignature type) room).followed (fun level => ofData (typeOf level))
    (by rw [made]; rfl)

/-- A payload is taken. -/
theorem takes_payload {payload : Json} (plain : payload.Plain) (room : Nat) :
    Takes (readPayload room) room payload payload := by
  intro rest
  rw [readPayload, Json.readValue_tokensOf plain]
  split <;> rfl

/-- The text of a plain value that a type and a payload are taken from is decoded as
the payload is under the type. -/
theorem decodeText_taken {json : Json} (plain : json.Plain) {type : Signature}
    {payload : Option (Option Json)} {value : Value}
    (takes : Takes (encodedStruct.read Json.maxOpen) Json.maxOpen json (type, payload))
    (decoded : decode type ((payload.getD none).getD .null) = .ok value) :
    decodeText json.compact =
      if json.depth ≤ Json.maxOpen then .ok value else failText .malformed := by
  have read := takes []
  rw [List.append_nil] at read
  simp only [decodeText, Json.tokens_compact plain, read]
  split
  · simp only [decoded, ofData, bind, Except.bind]
    rfl
  · rfl

/-- The text of a well-formed value is read back as the value, or refused if it nests
too deep. -/
theorem decodeText_encode {value : Value} (formed : value.WellFormed) :
    decodeText (encode value).compact =
      if (encode value).depth ≤ Json.maxOpen then .ok value else failText .malformed := by
  have plain := plain_encode formed
  have ofType := takes_signature value.signature (Json.maxOpen - 1)
  -- Everything but nil is written with a payload, which is plain because the whole is.
  have present : ∀ payload : Json, payload ≠ .null →
      encode value = withPayload value.signature payload →
      decodeText (encode value).compact =
        if (encode value).depth ≤ Json.maxOpen then .ok value else failText .malformed := by
    intro payload here written
    have decoded := decodeValue_encode formed
    rw [written, decodeValue_withPayload] at decoded
    rw [written] at plain ⊢
    have inside : payload.Plain := by
      cases plain with
      | object _ inside _ => exact inside (valueField, payload) (by simp)
    have different : valueField ≠ typeField := by decide
    exact decodeText_taken plain (takes_both encodedStruct different ofType
      ((takes_payload inside _).optional inside here)) decoded
  cases value with
  | nil type => exact decodeText_taken plain (takes_first encodedStruct ofType) rfl
  | _ => exact present _ (by simp [Json.integer]) rfl

/-- The text of a well-formed value is read back as a value that is equal to it and
of its type exactly if the text opens no more arrays and objects at once than a
reader allows; otherwise the reader says that the text is no JSON. -/
theorem text_round_trip_iff {value : Value} (formed : value.WellFormed) :
    ((∃ read, decodeText (encode value).compact = .ok read ∧ read.equal value = true ∧
        read.signature = value.signature) ↔ (encode value).depth ≤ Json.maxOpen) ∧
      (Json.maxOpen < (encode value).depth →
        decodeText (encode value).compact = .error (.text .malformed)) := by
  rw [decodeText_encode formed]
  by_cases fits : (encode value).depth ≤ Json.maxOpen
  · rw [if_pos fits]
    refine ⟨⟨fun _ => fits, fun _ => ⟨value, rfl, value.equal_refl, rfl⟩⟩, fun deep => ?_⟩
    exact absurd fits (Nat.not_le.mpr deep)
  · rw [if_neg fits]
    refine ⟨⟨?_, fun all => absurd all fits⟩, fun _ => rfl⟩
    rintro ⟨read, impossible, _⟩
    cases impossible

/-- A map whose name and value are written with escapes. -/
def quotedText : Value :=
  .map .string [("a \"name\"", [.string "two\nlines", .nil .string])]

/-- Escapes are read back. -/
theorem text_round_trip_quotedText :
    quotedText.WellFormed ∧ (encode quotedText).depth ≤ Json.maxOpen ∧
      ∃ read, decodeText (encode quotedText).compact = .ok read ∧
        read.equal quotedText = true ∧ read.signature = .map .string := by
  have values : Value.AllOf .string [.string "two\nlines", .nil .string] :=
    .cons _ _ _ (.string _) rfl (.cons _ _ _ (.nil _) rfl (.nil _))
  have formed : quotedText.WellFormed :=
    .map _ _ (.cons _ _ _ _ (by simp) values (.nil _)) trivial
  have fits : (encode quotedText).depth ≤ Json.maxOpen := by decide
  exact ⟨formed, fits, (text_round_trip_iff formed).1.mpr fits⟩

/-- The type of lists of lists and so on, so many times, of strings. -/
def listsOfStrings : Nat → Signature
  | 0 => .string
  | levels + 1 => .list (listsOfStrings levels)

/-- Each level of a type opens one object in the text of its nil, and so does the
nil itself. -/
theorem depth_encode_listsOfStrings (levels : Nat) :
    (encode (.nil (listsOfStrings levels))).depth = levels + 2 := by
  have ofType : (encodeSignature (listsOfStrings levels)).depth = levels + 1 := by
    induction levels with
    | zero => rfl
    | succ levels inductionHypothesis =>
      rw [encodeSignature] at inductionHypothesis
      simp only [encodeSignature, listsOfStrings, Level.ofSignature, encodeLevel, Json.depth,
        Json.depthOfMembers, inductionHypothesis]
      omega
  simp only [encode, Json.depth, Json.depthOfMembers, ofType]
  omega

/-- The nil of a type of 127 levels is well formed and not read back. -/
theorem deep_nil_not_read :
    (Value.nil (listsOfStrings 126)).WellFormed ∧
      ¬∃ read, decodeText (encode (.nil (listsOfStrings 126))).compact = .ok read ∧
        read.equal (.nil (listsOfStrings 126)) = true := by
  have formed : (Value.nil (listsOfStrings 126)).WellFormed := .nil _
  have deep : ¬(encode (.nil (listsOfStrings 126))).depth ≤ Json.maxOpen := by
    rw [depth_encode_listsOfStrings]
    decide
  refine ⟨formed, ?_⟩
  rintro ⟨read, decoded, _⟩
  rw [decodeText_encode formed, if_neg deep] at decoded
  cases decoded

end RuleTree.Wire
