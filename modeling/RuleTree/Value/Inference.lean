import RuleTree.Wire.Decode

/-!
# Values from outside

Data that comes without a type gets the type its shape suggests: null is the
untyped nil, text is a string, and the items of an array or the members of an
object have to share one type. What has nothing in it is taken for strings.

Text that comes with a type is read as that type.
-/

namespace RuleTree.Value

/-- The type that all values share. The first that differs is reported. -/
def sharedType : List Value → Except DecodeError Signature
  | [] => .ok .assumed
  | first :: rest =>
    match rest.find? fun value => !value.sameType first with
    | some other => .error (.mixedTypes first.signature other.signature)
    | none => .ok first.signature

mutual
/-- The value of untyped data. Numbers have to be integers, and the members of an
object become entries of one value each. -/
def ofJson : Json → Except DecodeError Value
  | .null => .ok (.nil .nil)
  | .bool value => .ok (.boolean value)
  | .number number =>
    match number.word? with
    | some word => .ok (.integer word)
    | none => .error (.unsupportedNumber number.toText)
  | .string text => .ok (.string text)
  | .array elements => do
    let items ← ofElements elements
    let unit ← sharedType items
    (ofItems unit items).mapError .badValue
  | .object members => do
    let entries ← ofMembers [] members
    let unit ← sharedType (entries.flatMap (·.2))
    (ofEntries unit entries).mapError .badValue

/-- The values of elements in order. -/
def ofElements : List Json → Except DecodeError (List Value)
  | [] => .ok []
  | element :: rest => do
    let value ← ofJson element
    let values ← ofElements rest
    .ok (value :: values)

/-- The entries with those of further members, which are inserted one after another. -/
def ofMembers (entries : List (String × List Value)) :
    List (String × Json) → Except DecodeError (List (String × List Value))
  | [] => .ok entries
  | (name, member) :: rest => do
    let value ← ofJson member
    ofMembers (Entries.insert name [value] entries) rest
end

/-- The texts that stand for true. -/
def trueTexts : List String := ["1", "t", "T", "TRUE", "true", "True"]

/-- The texts that stand for false. -/
def falseTexts : List String := ["0", "f", "F", "FALSE", "false", "False"]

/-- The value of a text under a type. Any text is nil under the type of nil, and
none is a list or a map. -/
def parse (type : Signature) (text : String) : Except DecodeError Value :=
  match type with
  | .nil => .ok (.nil .nil)
  | .boolean =>
    if text ∈ trueTexts then .ok (.boolean true)
    else if text ∈ falseTexts then .ok (.boolean false)
    else .error (.unreadable type text)
  | .integer =>
    match (Numeral.integer? text.toList).bind Numeral.word? with
    | some word => .ok (.integer word)
    | none => .error (.unreadable type text)
  | .string => .ok (.string text)
  | .regexp =>
    match Matcher.compile? text with
    | some matcher => .ok (.regexp matcher)
    | none => .error (.invalidRegexp text)
  | .list _ | .map _ => .error (.unreadable type text)

end RuleTree.Value
