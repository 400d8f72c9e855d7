import RuleTree.Signature

/-!
# Types as they travel

On the wire a type is a chain of levels, each with a base type and perhaps a
further level for its unit type. A chain can say what no type is: a list without
a unit type, or an integer with one. Turning a chain into a type reports the
innermost level at fault.
-/

namespace RuleTree.Wire

/-- A chain of levels. The last one has no unit. -/
inductive Level
  | last (base : BaseType)
  | over (base : BaseType) (unit : Level)
  deriving DecidableEq, Repr

/-- The level of a base type with what may be below it. -/
def Level.make (base : BaseType) : Option Level → Level
  | none => .last base
  | some unit => .over base unit

/-- The type of a chain. -/
def Level.signature : Level → Except UnitFault Signature
  | .last base => Signature.ofParts base none
  | .over base unit => do
    let unit ← unit.signature
    Signature.ofParts base (some unit)

/-- The chain of a type. -/
def Level.ofSignature : Signature → Level
  | .list unit => .over .list (ofSignature unit)
  | .map unit => .over .map (ofSignature unit)
  | type => .last type.base

end RuleTree.Wire
