import RuleTree.Json.Printer
import RuleTree.Value.Basic
import RuleTree.Wire.Level

/-!
# Encoded values

An encoded value is an object with its type and, unless it is nil, its payload.
Items of lists and values of maps are encoded values again, each with its own
type. A regular expression travels as its source.
-/

namespace RuleTree.Wire

/-- The names of the members of encoded types and values. -/
def baseField : String := "base_type"

/-- The member that holds the unit type. -/
def unitField : String := "unit_type"

/-- The member that holds the type of a value. -/
def typeField : String := "type"

/-- The member that holds the payload of a value. -/
def valueField : String := "value"

/-- An encoded chain. -/
def encodeLevel : Level → Json
  | .last base => .object [(baseField, .string base.name)]
  | .over base unit => .object [(baseField, .string base.name), (unitField, encodeLevel unit)]

/-- An encoded type. -/
def encodeSignature (type : Signature) : Json := encodeLevel (.ofSignature type)

/-- An encoded value with its payload. -/
def withPayload (type : Signature) (payload : Json) : Json :=
  .object [(typeField, encodeSignature type), (valueField, payload)]

mutual
/-- An encoded value. -/
def encode : Value → Json
  | .nil type => .object [(typeField, encodeSignature type)]
  | .boolean payload => withPayload .boolean (.bool payload)
  | .integer payload => withPayload .integer (.integer payload.toInt)
  | .string payload => withPayload .string (.string payload)
  | .regexp payload => withPayload .regexp (.string payload.source)
  | .list unit items => withPayload (.list unit) (.array (encodeItems items))
  | .map unit entries => withPayload (.map unit) (.object (encodeEntries entries))

/-- Several encoded values. -/
def encodeItems : List Value → List Json
  | [] => []
  | item :: rest => encode item :: encodeItems rest

/-- Entries with their values encoded. -/
def encodeEntries : List (String × List Value) → List (String × Json)
  | [] => []
  | (name, values) :: rest => (name, .array (encodeItems values)) :: encodeEntries rest
end

end RuleTree.Wire
