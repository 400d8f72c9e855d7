import RuleTree.Expr.Basic

/-!
# Building trees

Every node is built by one of these functions, which computes its type and
refuses operands that its evaluation could not handle. Operands are checked from
left to right and the first that does not fit is reported. Assigning to an entry
is the exception: it is accepted here and fails when it is evaluated.
-/

namespace RuleTree

/-- Why a node cannot be built. -/
inductive BuildError
  | operandType (operator : String) (expected found : Signature)
  | missingCapability (operator : String) (capability : Capability) (found : Signature)
  | mismatchedOperands (operator : String) (left right : Signature)
  | pattern (source : String)
  | emptySequence
  deriving DecidableEq

/-- The text of an error. -/
def BuildError.message : BuildError → String
  | .operandType operator expected found =>
    s!"{operator} requires a {expected.toText} operand, found {found.toText}"
  | .missingCapability operator capability found =>
    s!"{operator} requires a {capability.name} operand, found {found.toText}"
  | .mismatchedOperands operator left right =>
    s!"{operator} operands have different types: {left.toText} and {right.toText}"
  | .pattern source => "invalid match pattern: " ++ (DecodeError.invalidRegexp source).message
  | .emptySequence => "a sequence needs at least one expression"

namespace Build

/-- Require an operand to be of a type. -/
def expectType (operator : String) (expected : Signature) (operand : Expr) :
    Except BuildError Unit :=
  if operand.type = expected then .ok ()
  else .error (.operandType operator expected operand.type)

/-- Require an operand to have a capability. -/
def expectCapability (operator : String) (capability : Capability) (operand : Expr) :
    Except BuildError Unit :=
  if operand.type.base.supports [capability] then .ok ()
  else .error (.missingCapability operator capability operand.type)

/-- Require two operands to be of one type. -/
def expectSame (operator : String) (left right : Expr) : Except BuildError Unit :=
  if left.type = right.type then .ok ()
  else .error (.mismatchedOperands operator left.type right.type)

/-- The unit type of an operand that has a capability of lists or maps. -/
def expectUnit (operator : String) (capability : Capability) (operand : Expr) :
    Except BuildError Signature := do
  expectCapability operator capability operand
  match operand.type.unit? with
  | some unit => .ok unit
  | none => .error (.missingCapability operator capability operand.type)

/-- Require an operand to pass a check where it is there. -/
def expectOptional (check : Expr → Except BuildError Unit) : Option Expr → Except BuildError Unit
  | none => .ok ()
  | some operand => check operand

/-- A value that is always the same. -/
def constant (value : Value) (position : Position) : Expr :=
  .constant ⟨position, value.signature⟩ value

/-- Read a slot of the context, which is expected to hold a value of the type. -/
def slot (label : String) (key : Key) (type : Signature) (position : Position) : Expr :=
  .slot ⟨position, type⟩ label key

/-- Read an entry of the map that a tree yields. -/
def entry (label : String) (key : Key) (source : Expr) (position : Position) :
    Except BuildError Expr := do
  let unit ← expectUnit "reference" .referable source
  .ok (.entry ⟨position, unit⟩ label key source)

/-- Write what a tree yields to a slot of the context. -/
def setSlot (label : String) (key : Key) (value : Expr) (position : Position) : Expr :=
  .setSlot ⟨position, value.type⟩ label key value

/-- Write what a tree yields to an entry of what another tree yields. -/
def setEntry (label : String) (key : Key) (value target : Expr) (position : Position) : Expr :=
  .setEntry ⟨position, value.type⟩ label key value target

/-- The right operand of a match: the string of a constant is compiled here, so
that a malformed pattern is found before evaluation. -/
def pattern (right : Expr) : Except BuildError Expr :=
  match right with
  | .constant tag (.string source) =>
    match Matcher.compile? source with
    | some matcher => .ok (constant (.regexp matcher) tag.position)
    | none => .error (.pattern source)
  | .constant tag (.nil .string) => .ok (constant (.nil .regexp) tag.position)
  | right => .ok right

/-- Check the operands of a comparison. Values of any two types can be compared for
equality; the order of two values requires one type that has an order. The right
operand is given back, compiled if it is a pattern. -/
def expectOperands (comparison : Comparison) (left right : Expr) : Except BuildError Expr :=
  match comparison with
  | .equal | .notEqual => .ok right
  | .matching => do
    expectType comparison.name .string left
    let right ← pattern right
    expectType comparison.name .regexp right
    .ok right
  | .less | .lessEqual | .greater | .greaterEqual => do
    expectSame comparison.name left right
    expectCapability comparison.name .comparable left
    .ok right

/-- A comparison. -/
def compare (comparison : Comparison) (left right : Expr) (position : Position) :
    Except BuildError Expr := do
  let right ← expectOperands comparison left right
  .ok (.compare ⟨position, .boolean⟩ comparison left right)

/-- A conjunction. -/
def both (left right : Expr) (position : Position) : Except BuildError Expr := do
  expectType "and" .boolean left
  expectType "and" .boolean right
  .ok (.both ⟨position, .boolean⟩ left right)

/-- A disjunction. -/
def either (left right : Expr) (position : Position) : Except BuildError Expr := do
  expectType "or" .boolean left
  expectType "or" .boolean right
  .ok (.either ⟨position, .boolean⟩ left right)

/-- A negation. -/
def negation (operand : Expr) (position : Position) : Except BuildError Expr := do
  expectType "not" .boolean operand
  .ok (.negation ⟨position, .boolean⟩ operand)

/-- A choice by a condition. Both parts have to be of one type. -/
def branch (check consequent : Expr) (alternative : Option Expr) (position : Position) :
    Except BuildError Expr := do
  expectType "if" .boolean check
  expectOptional (expectSame "if" consequent) alternative
  .ok (.branch ⟨position, consequent.type⟩ check consequent alternative)

/-- A loop over the items of a list, each bound to a slot in turn. What the body
yields and what stops the loop are of the type of the items. -/
def loop (list body : Expr) (stop : Option Expr) (key : Key) (position : Position) :
    Except BuildError Expr := do
  let unit ← expectUnit "for" .iterable list
  expectType "for" unit body
  expectOptional (expectType "for" unit) stop
  .ok (.loop ⟨position, unit⟩ list body stop key)

/-- The type of what a search yields. -/
def searchType (kind : SearchKind) (unit : Signature) : Signature :=
  match kind with
  | .exist => .boolean
  | .find => unit
  | .findAll => .list unit

/-- Require a key to be a scalar or the untyped nil. -/
def expectKey (operator : String) (key : Expr) : Except BuildError Unit :=
  if key.type = .nil then .ok () else expectCapability operator .scalar key

/-- Require the items of a list to be scalars. A map is searched by name, whatever
its values are. -/
def expectItems (operator : String) (collection : Expr) (unit : Signature) :
    Except BuildError Unit :=
  if collection.type.base = .list ∧ ¬ unit.isScalar then
    .error (.missingCapability operator .scalar unit)
  else .ok ()

/-- A search for a key in a list or map. -/
def search (kind : SearchKind) (key collection : Expr) (fallback : Option Expr)
    (position : Position) : Except BuildError Expr := do
  expectKey kind.name key
  let unit ← expectUnit kind.name .searchable collection
  expectItems kind.name collection unit
  expectOptional (expectType kind.name (searchType kind unit)) fallback
  .ok (.search ⟨position, searchType kind unit⟩ kind key collection fallback)

/-- Trees evaluated one after another. The last gives the result, so there has to
be one. -/
def sequence (parts : List Expr) (position : Position) : Except BuildError Expr :=
  match parts.getLast? with
  | some last => .ok (.sequence ⟨position, last.type⟩ parts)
  | none => .error .emptySequence

end Build

end RuleTree
