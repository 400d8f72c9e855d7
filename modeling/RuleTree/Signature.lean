import RuleTree.BaseType

/-!
# Signatures

The signature of a value is its full type. A list or map has a unit type, the
type of its items or values, and nothing else has one: the type leaves no room
for a list without a unit type or an integer with one.
-/

namespace RuleTree

/-- The type of a value. -/
inductive Signature
  | nil
  | boolean
  | integer
  | string
  | regexp
  | list (unit : Signature)
  | map (unit : Signature)
  deriving DecidableEq, Repr

/-- Why a base type and a unit type make no type: one is missing, or there is one
where none belongs. -/
inductive UnitFault
  | missing (base : BaseType)
  | unexpected (base : BaseType)
  deriving DecidableEq, Repr

/-- The text of a fault. -/
def UnitFault.message : UnitFault → String
  | .missing base => s!"{base.name} type requires a unit type"
  | .unexpected base => s!"{base.name} type does not take a unit type"

namespace Signature

/-- The outermost part of a type. -/
def base : Signature → BaseType
  | .nil => .nil
  | .boolean => .boolean
  | .integer => .integer
  | .string => .string
  | .regexp => .regexp
  | .list _ => .list
  | .map _ => .map

/-- The type of the items of a list or of the values of a map. -/
def unit? : Signature → Option Signature
  | .list unit | .map unit => some unit
  | _ => none

/-- The type made of a base type and a unit type. Lists and maps require a unit
type, and nothing else takes one. -/
def ofParts (base : BaseType) (unit : Option Signature) : Except UnitFault Signature :=
  match base, unit with
  | .list, some unit => .ok (.list unit)
  | .map, some unit => .ok (.map unit)
  | .list, none | .map, none => .error (.missing base)
  | _, some _ => .error (.unexpected base)
  | .nil, none => .ok .nil
  | .boolean, none => .ok .boolean
  | .integer, none => .ok .integer
  | .string, none => .ok .string
  | .regexp, none => .ok .regexp

/-- Every type is made of its parts. -/
theorem ofParts_parts (type : Signature) : ofParts type.base type.unit? = .ok type := by
  cases type <;> rfl

/-- A base type and a unit type make the type whose parts they are. -/
theorem ofParts_ok_iff {base : BaseType} {unit : Option Signature} {type : Signature} :
    ofParts base unit = .ok type ↔ type.base = base ∧ type.unit? = unit := by
  constructor
  · intro made
    cases base <;> cases unit <;> cases made <;> exact ⟨rfl, rfl⟩
  · rintro ⟨rfl, rfl⟩
    exact ofParts_parts type

/-- Types are the same if their base types and their unit types are. -/
theorem eq_iff_parts {left right : Signature} :
    left = right ↔ left.base = right.base ∧ left.unit? = right.unit? := by
  rw [← ofParts_ok_iff, ofParts_parts]
  exact ⟨fun same => same ▸ rfl, fun same => (Except.ok.inj same).symm⟩

/-- Whether values of the type have a natural string. -/
def isScalar (type : Signature) : Bool := type.base.supports [.scalar]

/-- The unit type of a list or map that has nothing in it to take one from. -/
def assumed : Signature := .string

/-- The text of a type: its base type, with the unit type if there is one,
between braces. -/
def toText : Signature → String
  | .list unit => "\x7b" ++ BaseType.list.name ++ " " ++ unit.toText ++ "\x7d"
  | .map unit => "\x7b" ++ BaseType.map.name ++ " " ++ unit.toText ++ "\x7d"
  | type => "\x7b" ++ type.base.name ++ "\x7d"

end Signature

end RuleTree
