/-!
# Base types and what they can do

A base type is the outermost part of a type. What may be done with a value
depends on its base type alone, and is known before there is a value: trees are
checked against it when they are built.
-/

namespace RuleTree

/-- Something that can be done with the values of some base types. -/
inductive Capability
  | equality
  | comparable
  | searchable
  | assignable
  | referable
  | iterable
  | iterationValue
  | scalar
  deriving DecidableEq, Repr

namespace Capability

/-- Every capability, in their fixed order. -/
def all : List Capability :=
  [.equality, .comparable, .searchable, .assignable, .referable, .iterable, .iterationValue,
    .scalar]

/-- The name of a capability in messages. -/
def name : Capability → String
  | .equality => "equality"
  | .comparable => "comparable"
  | .searchable => "searchable"
  | .assignable => "assignable"
  | .referable => "referable"
  | .iterable => "iterable"
  | .iterationValue => "iteration-value"
  | .scalar => "scalar"

/-- The place of a capability in the fixed order, which is its bit in a number
that stands for a set of them. -/
def bit : Capability → Nat
  | .equality => 0
  | .comparable => 1
  | .searchable => 2
  | .assignable => 3
  | .referable => 4
  | .iterable => 5
  | .iterationValue => 6
  | .scalar => 7

/-- The capabilities whose bits are set, in their fixed order. -/
def ofBits (bits : Nat) : List Capability :=
  all.filter fun capability => bits.testBit capability.bit

end Capability

/-- The outermost part of a type. `nil` is the type of the value that is absent
and has no other type. -/
inductive BaseType
  | boolean
  | integer
  | list
  | map
  | nil
  | regexp
  | string
  deriving DecidableEq, Repr

namespace BaseType

/-- Every base type, in their fixed order. -/
def all : List BaseType := [.boolean, .integer, .list, .map, .nil, .regexp, .string]

/-- The place of a base type in the fixed order. -/
def rank : BaseType → Nat
  | .boolean => 0
  | .integer => 1
  | .list => 2
  | .map => 3
  | .nil => 4
  | .regexp => 5
  | .string => 6

/-- The name of a base type. -/
def name : BaseType → String
  | .boolean => "boolean"
  | .integer => "integer"
  | .list => "list"
  | .map => "map"
  | .nil => "nil"
  | .regexp => "regexp"
  | .string => "string"

/-- The base type of that name. -/
def ofName? (name : String) : Option BaseType := all.find? fun base => base.name == name

/-- A base type is found by its name. -/
theorem ofName?_name (base : BaseType) : ofName? base.name = some base := by
  cases base <;> rfl

/-- What can be done with values of the base type. Nothing can be done with the
untyped nil, and no value can be assigned to. -/
def capabilities : BaseType → List Capability
  | .boolean | .regexp | .string => [.equality, .iterationValue, .scalar]
  | .integer => [.equality, .comparable, .iterationValue, .scalar]
  | .list => [.equality, .searchable, .iterable]
  | .map => [.equality, .searchable, .referable]
  | .nil => []

/-- Whether values of the base type have all of the capabilities. -/
def supports (base : BaseType) (capabilities : List Capability) : Bool :=
  capabilities.all base.capabilities.contains

/-- Whether types of this base type have a unit type. -/
def isComposite : BaseType → Bool
  | .list | .map => true
  | _ => false

end BaseType

end RuleTree
