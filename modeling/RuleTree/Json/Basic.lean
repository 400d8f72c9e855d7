import RuleTree.Entries
import RuleTree.Json.Double

/-!
# JSON values

A number is an integer when it is written as one and fits a signed or unsigned
64-bit word; any other number is a double. Members of an object are in ascending
order of their names by code point, one to a name, so two objects with the same
members are equal.
-/

namespace RuleTree

/-- A number of a JSON value. -/
inductive JsonNumber
  | integer (n : Int)
  | double (value : Double)
  deriving DecidableEq, Repr

/-- A JSON value. -/
inductive Json
  | null
  | bool (value : Bool)
  | number (value : JsonNumber)
  | string (text : String)
  | array (items : List Json)
  | object (members : List (String × Json))
  deriving Repr, Inhabited

namespace Json

/-- An integer as a JSON value. -/
def integer (n : Int) : Json := .number (.integer n)

/-- The object of the given members; of several with one name the last counts. -/
def ofMembers (members : List (String × Json)) : Json := .object (Entries.ofList members)

/-- The member of an object with that name. -/
def member? (json : Json) (name : String) : Option Json :=
  match json with
  | .object members => members.lookup name
  | _ => none

end Json

/-- The text of a number. -/
def JsonNumber.toText : JsonNumber → String
  | .integer n => Numeral.integer n
  | .double value => value.toText

/-- The integer, if the number is one that a signed 64-bit word can hold. -/
def JsonNumber.word? : JsonNumber → Option Int64
  | .integer n => Numeral.word? n
  | .double _ => none

end RuleTree
