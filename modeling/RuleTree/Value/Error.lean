import RuleTree.Key
import RuleTree.Signature

/-!
# Errors of values

There are two kinds of failure. An operation may be applied to a value that does
not have it, which a well-built tree never does. And data from outside may be
malformed, which is always possible.
-/

namespace RuleTree

/-- An operation on values that not every value has. -/
inductive Operation
  | compare
  | naturalString
  | search
  | reference
  | assign
  | iterate
  deriving DecidableEq, Repr

/-- The name of an operation in messages. -/
def Operation.name : Operation → String
  | .compare => "compare"
  | .naturalString => "natural string"
  | .search => "search"
  | .reference => "reference"
  | .assign => "assign"
  | .iterate => "iterate"

/-- An operation was applied to a value that does not have it. -/
inductive ValueError
  | unsupported (operation : Operation) (base : BaseType)
  | incompatibleTypes (left right : Signature)
  | invalidKey (key : Key)
  | typeMismatch (expected found : Signature)
  deriving DecidableEq

/-- The text of an error. -/
def ValueError.message : ValueError → String
  | .unsupported operation base => s!"{operation.name} is not supported for {base.name} values"
  | .incompatibleTypes left right => s!"incompatible types: {left.toText} and {right.toText}"
  | .invalidKey key => s!"invalid key {key.toText} for map reference"
  | .typeMismatch expected found => s!"expected a {expected.toText} value, found {found.toText}"

/-- What a decoder of structures can find where it expects something else. -/
inductive Found
  | null
  | boolean (value : Bool)
  | integer (value : Int)
  | double (text : String)
  | string (text : String)
  | sequence
  | map
  deriving DecidableEq, Repr

/-- How what was found is described in messages. -/
def Found.describe : Found → String
  | .null => "null"
  | .boolean true => "boolean `true`"
  | .boolean false => "boolean `false`"
  | .integer value => "integer `" ++ Numeral.integer value ++ "`"
  | .double text => "floating point `" ++ text ++ "`"
  | .string text => "string " ++ Quoted.quoted text
  | .sequence => "sequence"
  | .map => "map"

/-- The structure of encoded data is not what it has to be. -/
inductive StructureError
  | missingField (name : String)
  | duplicateField (name : String)
  | invalidType (found : Found) (expected : String)
  | notSingleKey
  | invalidLength (length : Nat) (expected : String)
  | unknownBaseType (name : String)
  | unit (fault : UnitFault)
  deriving DecidableEq, Repr

/-- A name as it is quoted in messages about structure. -/
def ticked (name : String) : String := "`" ++ name ++ "`"

/-- The text of an error of structure. -/
def StructureError.message : StructureError → String
  | .missingField name => "missing field " ++ ticked name
  | .duplicateField name => "duplicate field " ++ ticked name
  | .invalidType found expected => s!"invalid type: {found.describe}, expected {expected}"
  | .notSingleKey => "invalid value: map, expected map with a single key"
  | .invalidLength length expected =>
    s!"invalid length {Numeral.natural length}, expected {expected}"
  | .unknownBaseType name =>
    "unknown variant " ++ ticked name ++ ", expected one of " ++
      ", ".intercalate (BaseType.all.map fun base => ticked base.name)
  | .unit fault => fault.message

/-- Data from outside is malformed. -/
inductive DecodeError
  | invalidRegexp (pattern : String)
  | invalidPayload (base : BaseType) (found : String)
  | elementType (expected found : Signature)
  | emptyMapEntry (name : String)
  | mixedTypes (first other : Signature)
  | unsupportedNumber (number : String)
  | unreadable (target : Signature) (text : String)
  | badStructure (error : StructureError)
  | badValue (error : ValueError)
  deriving DecidableEq

/-- The text of an error. -/
def DecodeError.message : DecodeError → String
  | .invalidRegexp pattern => "invalid regexp " ++ Quoted.quoted pattern
  | .invalidPayload base found => s!"invalid {base.name} payload: {found}"
  | .elementType expected found =>
    s!"element type {found.toText} does not match unit type {expected.toText}"
  | .emptyMapEntry name => s!"map entry {Quoted.quoted name} has no values"
  | .mixedTypes first other => s!"mixed element types: {first.toText} and {other.toText}"
  | .unsupportedNumber number => s!"unsupported number {number}: only integers are supported"
  | .unreadable target text => s!"cannot parse {Quoted.quoted text} as {target.toText}"
  | .badStructure error => error.message
  | .badValue error => error.message

end RuleTree
