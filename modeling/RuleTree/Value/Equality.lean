import RuleTree.Value.Basic

/-!
# Equality of values

Values are equal when they are of one type and show the same data, at every
depth. A nil equals the nil of its own type alone. Regular expressions are
compared by their sources, so the same language written differently is not
equal; and a string never equals a regular expression.
-/

namespace RuleTree.Value

mutual
/-- Whether two values are equal. -/
def equal : Value → Value → Bool
  | .nil left, .nil right => left == right
  | .boolean left, .boolean right => left == right
  | .integer left, .integer right => left == right
  | .string left, .string right => left == right
  | .regexp left, .regexp right => left.source == right.source
  | .list unit items, .list unit' items' => unit == unit' && equalItems items items'
  | .map unit entries, .map unit' entries' => unit == unit' && equalEntries entries entries'
  | _, _ => false

/-- Whether two sequences have equal values at equal places. -/
def equalItems : List Value → List Value → Bool
  | [], [] => true
  | left :: lefts, right :: rights => equal left right && equalItems lefts rights
  | _, _ => false

/-- Whether two sequences of entries have the same names with equal values. -/
def equalEntries : List (String × List Value) → List (String × List Value) → Bool
  | [], [] => true
  | (name, values) :: rest, (name', values') :: rest' =>
    name == name' && equalItems values values' && equalEntries rest rest'
  | _, _ => false
end

end RuleTree.Value
