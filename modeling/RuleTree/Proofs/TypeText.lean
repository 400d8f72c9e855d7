import RuleTree.Signature

/-!
# The texts of types

Messages name types by their texts. The text of a type opens with a brace and the name of its
base type, which is made of letters and ends where they end: after it comes a blank, if there
is a unit type, or the closing brace. Base types have different names, so what stands first
tells the base type, what stands next tells whether there is a unit type, and then its text
begins.

Where the text of the unit type ends is not told by counting braces, but by the text itself:
the text of no type begins that of another. `SelfDelimiting` says this of a type, for whatever
follows, and it passes from the unit type to the type that has it. Texts that are equal as a
whole are the case in which nothing follows.
-/

namespace RuleTree

namespace BaseType

/-- Base types of one name are the same. -/
theorem name_injective : Function.Injective name := by
  intro left right same
  have found : ofName? left.name = some right := same ▸ ofName?_name right
  exact Option.some.inj ((ofName?_name left).symm.trans found)

/-- Names of base types are made of letters. -/
theorem isLower_name (base : BaseType) : base.name.toList.all Char.isLower = true := by
  cases base <;> rfl

end BaseType

namespace Signature

/-- What follows the name of a base type in the text of a type. -/
def afterName : Option Signature → List Char
  | none => ['\x7d']
  | some unit => ' ' :: (unit.toText.toList ++ ['\x7d'])

/-- The text of a type is made from its base type and its unit type. -/
theorem toList_toText (type : Signature) :
    type.toText.toList = '\x7b' :: (type.base.name.toList ++ afterName type.unit?) := by
  cases type <;> simp [toText, afterName, base, unit?]

example : (map (list integer)).toText = "\x7bmap \x7blist \x7binteger\x7d\x7d\x7d" := rfl

/-- The text of the type is told from that of any other type, whatever follows the two: both
are the same, and so is what follows them. -/
def SelfDelimiting (type : Signature) : Prop :=
  ∀ (other : Signature) (rest otherRest : List Char),
    type.toText.toList ++ rest = other.toText.toList ++ otherRest →
      type = other ∧ rest = otherRest

/-- The name of a base type ends where its letters end. -/
theorem takeWhile_name (base : BaseType) (unit : Option Signature) (rest : List Char) :
    (base.name.toList ++ (afterName unit ++ rest)).takeWhile Char.isLower =
      base.name.toList := by
  have ended : (afterName unit ++ rest).takeWhile Char.isLower = [] := by
    cases unit <;> rfl
  rw [List.takeWhile_append_of_pos (List.all_eq_true.mp base.isLower_name), ended,
    List.append_nil]

/-- What follows a name tells the unit type, if the text of the unit type is told from
others. -/
theorem afterName_append_inj {left right : Option Signature} {rest otherRest : List Char}
    (inside : ∀ unit ∈ left, unit.SelfDelimiting)
    (same : afterName left ++ rest = afterName right ++ otherRest) :
    left = right ∧ rest = otherRest := by
  cases left with
  | none =>
    cases right with
    | none => exact ⟨rfl, (List.cons.inj same).2⟩
    | some unit => exact absurd (List.cons.inj same).1 (by decide)
  | some unit =>
    cases right with
    | none => exact absurd (List.cons.inj same).1 (by decide)
    | some other =>
      have texts : unit.toText.toList ++ '\x7d' :: rest =
          other.toText.toList ++ '\x7d' :: otherRest := by
        simpa [afterName] using same
      obtain ⟨units, closed⟩ := inside unit rfl other _ _ texts
      exact ⟨congrArg some units, (List.cons.inj closed).2⟩

/-- The text of a type is told from others if that of its unit type is. -/
theorem selfDelimiting_of_unit {type : Signature}
    (inside : ∀ unit ∈ type.unit?, unit.SelfDelimiting) : type.SelfDelimiting := by
  intro other rest otherRest same
  rw [toList_toText, toList_toText, List.cons_append, List.cons_append, List.append_assoc,
    List.append_assoc] at same
  have behind := (List.cons.inj same).2
  have names : type.base.name.toList = other.base.name.toList := by
    rw [← takeWhile_name type.base type.unit? rest, behind, takeWhile_name]
  have bases : type.base = other.base := BaseType.name_injective (String.toList_inj.mp names)
  rw [names] at behind
  obtain ⟨units, rests⟩ := afterName_append_inj inside (List.append_cancel_left behind)
  exact ⟨eq_iff_parts.mpr ⟨bases, units⟩, rests⟩

/-- The text of every type is told from that of all others. -/
theorem selfDelimiting (type : Signature) : type.SelfDelimiting := by
  induction type with
  | list unit inductionHypothesis | map unit inductionHypothesis =>
    exact selfDelimiting_of_unit fun _ same => Option.some.inj same ▸ inductionHypothesis
  | nil | boolean | integer | string | regexp =>
    exact selfDelimiting_of_unit fun _ absent => nomatch absent

/-- Types have the same text exactly if they are the same. -/
theorem toText_eq_iff (left right : Signature) : left.toText = right.toText ↔ left = right := by
  constructor
  · intro same
    have texts : left.toText.toList ++ [] = right.toText.toList ++ [] := by rw [same]
    exact (left.selfDelimiting right [] [] texts).1
  · rintro rfl
    rfl

end Signature

end RuleTree
