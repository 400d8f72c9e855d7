import RuleTree.Json.Basic

/-!
# Compact JSON text

Text without blanks. Within strings the quote, the backslash and the controls
are escaped, those with a letter by it and the others by four digits; every
other character stands as it is.
-/

namespace RuleTree.Json

/-- How a character is written within a string. -/
def escape (c : Char) : List Char :=
  match c with
  | '"' => ['\\', '"']
  | '\\' => ['\\', '\\']
  | '\x08' => ['\\', 'b']
  | '\x0c' => ['\\', 'f']
  | '\n' => ['\\', 'n']
  | '\r' => ['\\', 'r']
  | '\t' => ['\\', 't']
  | c =>
    if c.toNat < 0x20 then
      ['\\', 'u', '0', '0', Nat.digitChar (c.toNat / 16), Nat.digitChar (c.toNat % 16)]
    else [c]

/-- The text of a string. -/
def printString (text : String) : List Char := '"' :: text.toList.flatMap escape ++ ['"']

mutual
/-- The text of a value. -/
def print : Json → List Char
  | .null => ['n', 'u', 'l', 'l']
  | .bool true => ['t', 'r', 'u', 'e']
  | .bool false => ['f', 'a', 'l', 's', 'e']
  | .number value => value.toText.toList
  | .string text => printString text
  | .array [] => ['[', ']']
  | .array (item :: items) => '[' :: print item ++ printItems items ++ [']']
  | .object [] => ['\x7b', '\x7d']
  | .object ((name, value) :: members) =>
    '\x7b' :: printString name ++ ':' :: print value ++ printMembers members ++ ['\x7d']

/-- The text of the items after the first. -/
def printItems : List Json → List Char
  | [] => []
  | item :: rest => ',' :: print item ++ printItems rest

/-- The text of the members after the first. -/
def printMembers : List (String × Json) → List Char
  | [] => []
  | (name, value) :: rest => ',' :: printString name ++ ':' :: print value ++ printMembers rest
end

/-- The compact text of a value. -/
def compact (json : Json) : String := String.ofList (print json)

end RuleTree.Json
