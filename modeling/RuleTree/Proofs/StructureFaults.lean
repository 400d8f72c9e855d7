import RuleTree.Proofs.WireGrammar

/-!
# Faults of structure

A type is read from its structure alone, and so is the envelope of an element. Neither
looks into a payload or at a value, so all that can be wrong with them is their structure:
the errors about payloads, elements and values do not come from here.
-/

namespace RuleTree.Wire

variable {α β : Type} {first : Except DecodeError α} {next : α → Except DecodeError β}

/-- The outcome is no failure, or one for a fault of structure. -/
def Structural (outcome : Except DecodeError α) : Prop :=
  ∀ error, outcome = .error error → ∃ fault, error = .badStructure fault

/-- A success is no failure. -/
theorem structural_ok (result : α) : Structural (.ok result) := by
  intro error impossible
  cases impossible

/-- A fault of structure is one. -/
theorem structural_error (fault : StructureError) :
    Structural (.error (.badStructure fault) : Except DecodeError α) := by
  rintro _ ⟨⟩
  exact ⟨fault, rfl⟩

/-- A sequence fails for nothing else than its parts do. -/
theorem Structural.bind (ofFirst : Structural first)
    (ofNext : ∀ middle, Structural (next middle)) : Structural (first >>= next) := by
  intro error failed
  rcases bind_error_iff.mp failed with failed | ⟨middle, _, failed⟩
  · exact ofFirst error failed
  · exact ofNext middle error failed

/-- A field that is missing is a fault of structure. -/
theorem structural_required {name : String} {field : Option α} :
    Structural (required name field) := by
  cases field with
  | none => exact structural_error _
  | some value => exact structural_ok value

/-- No base type has the name, or one has. -/
theorem structural_baseNamed (name : String) : Structural (baseNamed name) := by
  rw [baseNamed]
  cases BaseType.ofName? name with
  | none => exact structural_error _
  | some base => exact structural_ok base

/-- Base types are read from their structure. -/
theorem structural_decodeBase (json : Json) : Structural (decodeBase json) := by
  cases json with
  | string name => exact structural_baseNamed name
  | object members =>
    match members with
    | [(name, value)] =>
      refine (structural_baseNamed name).bind fun base => ?_
      cases value with
      | null => exact structural_ok base
      | _ => exact structural_error _
    | [] => exact structural_error _
    | _ :: _ :: _ => exact structural_error _
  | _ => exact structural_error _

/-- What is below a level is read from its structure, if a level is. -/
theorem structural_decodeUnit {json : Json} (level : Structural (decodeLevel json)) :
    Structural (decodeUnit json) := by
  cases json with
  | null =>
    rw [decodeUnit]
    exact structural_ok none
  | _ =>
    simp only [decodeUnit]
    exact level.bind fun unit => structural_ok (some unit)

/-- The fields of a level are read from the structure of the members, if levels are. -/
theorem structural_decodeLevelFields {members : List (String × Json)}
    (inside : ∀ member ∈ members, Structural (decodeLevel member.2))
    (fields : Fields BaseType (Option Level)) : Structural (decodeLevelFields fields members) := by
  induction members generalizing fields with
  | nil =>
    rw [decodeLevelFields]
    exact structural_ok fields
  | cons member rest inductionHypothesis =>
    obtain ⟨name, value⟩ := member
    obtain ⟨here, inside⟩ := List.forall_mem_cons.mp inside
    rw [decodeLevelFields]
    split
    · exact (structural_decodeBase value).bind fun base => inductionHypothesis inside _
    · split
      · exact (structural_decodeUnit here).bind fun unit => inductionHypothesis inside _
      · exact inductionHypothesis inside fields

/-- Chains of levels are read from their structure.

Proof: by induction on the JSON value, as the level below another is a part of it. -/
theorem structural_decodeLevel (json : Json) : Structural (decodeLevel json) := by
  induction json with
  | object members inductionHypothesis =>
    rw [decodeLevel]
    refine (structural_decodeLevelFields inductionHypothesis _).bind fun fields => ?_
    exact structural_required.bind fun base => structural_ok _
  | array items inductionHypothesis =>
    rcases items with _ | ⟨first, _ | ⟨second, rest⟩⟩ <;> rw [decodeLevel]
    · exact structural_error _
    · exact (structural_decodeBase first).bind fun base => structural_ok _
    · have below : Structural (decodeLevel second) := inductionHypothesis second (by simp)
      refine (structural_decodeBase first).bind fun base => ?_
      refine (structural_decodeUnit below).bind fun unit => ?_
      split
      · exact structural_ok _
      · exact structural_error _
  | _ =>
    simp only [decodeLevel]
    exact structural_error _

/-- Types are read from their structure: a chain that makes no type counts as a fault in it. -/
theorem structural_decodeSignature (json : Json) : Structural (decodeSignature json) := by
  refine (structural_decodeLevel json).bind fun level => ?_
  rw [typeOf]
  cases level.signature with
  | error fault => exact structural_error _
  | ok type => exact structural_ok type

/-- Envelopes are read from their structure. -/
theorem structural_readEnvelope (json : Json) : Structural (readEnvelope json) := by
  cases json with
  | object members =>
    refine structural_required.bind fun held => ?_
    exact (structural_decodeSignature held).bind fun type => structural_ok _
  | array items =>
    match items with
    | [] => exact structural_error _
    | [first] => exact (structural_decodeSignature first).bind fun type => structural_ok _
    | [first, _] => exact (structural_decodeSignature first).bind fun type => structural_ok _
    | first :: _ :: _ :: _ =>
      exact (structural_decodeSignature first).bind fun _ => structural_error _
  | _ => exact structural_error _

end RuleTree.Wire
