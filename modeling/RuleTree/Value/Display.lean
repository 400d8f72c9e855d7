import RuleTree.Value.Basic

/-!
# The text of values

Two texts are made of a value. The short one is for reading: it shows the data
alone, with text between quotes but without escapes. The outline is for looking
into a value: it names every part of its structure, its types and what is
absent.
-/

namespace RuleTree

namespace Value

mutual
/-- The data of a value. Every nil looks alike. -/
def toText : Value → String
  | .nil _ => "<<nil>>"
  | .boolean true => "true"
  | .boolean false => "false"
  | .integer payload => Numeral.integer payload.toInt
  | .string payload => "\"" ++ payload ++ "\""
  | .regexp payload => "\"" ++ payload.source ++ "\""
  | .list _ items => "[" ++ ",".intercalate (itemTexts items) ++ "]"
  | .map _ entries => "\x7b" ++ ",".intercalate (entryTexts entries) ++ "\x7d"

/-- The texts of several values. -/
def itemTexts : List Value → List String
  | [] => []
  | item :: rest => toText item :: itemTexts rest

/-- The texts of entries: a name without quotes and its values. -/
def entryTexts : List (String × List Value) → List String
  | [] => []
  | (name, values) :: rest =>
    (name ++ ":[" ++ ",".intercalate (itemTexts values) ++ "]") :: entryTexts rest
end

end Value

/-- The outline of a type. -/
def Signature.outline : Signature → String
  | .nil => "Nil"
  | .boolean => "Boolean"
  | .integer => "Integer"
  | .string => "String"
  | .regexp => "Regexp"
  | .list unit => "List(" ++ unit.outline ++ ")"
  | .map unit => "Map(" ++ unit.outline ++ ")"

/-- The outline of a matcher. -/
def Matcher.outline (matcher : Matcher) : String :=
  "Matcher(" ++ Quoted.quoted matcher.source ++ ")"

namespace Value

/-- A part of an outline that is there or not. -/
def optional : Option String → String
  | none => "None"
  | some part => "Some(" ++ part ++ ")"

/-- The outline of a list with its unit type. -/
def listOutline (unit : Signature) (items : Option String) : String :=
  "List \x7b unit: " ++ unit.outline ++ ", items: " ++ optional items ++ " \x7d"

/-- The outline of a map with its unit type. -/
def mapOutline (unit : Signature) (entries : Option String) : String :=
  "Map \x7b unit: " ++ unit.outline ++ ", entries: " ++ optional entries ++ " \x7d"

/-- The outline of the nil of a type. -/
def nilOutline : Signature → String
  | .nil => "Nil"
  | .list unit => listOutline unit none
  | .map unit => mapOutline unit none
  | type => type.outline ++ "(" ++ optional none ++ ")"

mutual
/-- The outline of a value. -/
def outline : Value → String
  | .nil type => nilOutline type
  | .boolean payload => "Boolean(" ++ optional (some (if payload then "true" else "false")) ++ ")"
  | .integer payload => "Integer(" ++ optional (some (Numeral.integer payload.toInt)) ++ ")"
  | .string payload => "String(" ++ optional (some (Quoted.quoted payload)) ++ ")"
  | .regexp payload => "Regexp(" ++ optional (some payload.outline) ++ ")"
  | .list unit items =>
    listOutline unit (some ("[" ++ ", ".intercalate (itemOutlines items) ++ "]"))
  | .map unit entries =>
    mapOutline unit (some ("\x7b" ++ ", ".intercalate (entryOutlines entries) ++ "\x7d"))

/-- The outlines of several values. -/
def itemOutlines : List Value → List String
  | [] => []
  | item :: rest => outline item :: itemOutlines rest

/-- The outlines of entries: a quoted name and its values. -/
def entryOutlines : List (String × List Value) → List String
  | [] => []
  | (name, values) :: rest =>
    (Quoted.quoted name ++ ": [" ++ ", ".intercalate (itemOutlines values) ++ "]") ::
      entryOutlines rest
end

end Value

end RuleTree
