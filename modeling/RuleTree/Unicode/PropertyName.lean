import RuleTree.Unicode.Age
import RuleTree.Unicode.Boundary

/-!
# Sets of characters by name

A name is compared loosely: blanks, hyphens, low lines, a leading `is`, the case
of letters and any character outside ASCII do not matter. A single name is
looked for among the binary properties, then the general categories, then the
scripts. Two names ask for one value of a property with several.

The names of properties that have no members of their own here, such as `age`
without a value, are no names of sets.
-/

namespace RuleTree.PropertyName

/-- The lower case form of an ASCII character of a name, or nothing where the
character does not matter. -/
def significant? (c : Char) : Option Char :=
  if c == ' ' || c == '_' || c == '-' || 0x7F < c.toNat then none else some c.toLower

/-- A name without the characters that do not matter. A leading `is` is dropped
as well, unless `c` alone would remain: that name belongs to another property. -/
def loose (name : String) : String :=
  match name.toList with
  | i :: s :: rest =>
    if i.toLower = 'i' ∧ s.toLower = 's' then
      match rest.filterMap significant? with
      | ['c'] => "isc"
      | kept => String.ofList kept
    else
      String.ofList (name.toList.filterMap significant?)
  | chars => String.ofList (chars.filterMap significant?)

/-- The category or union of categories of a loose name, where `any`, `assigned`
and `ascii` count as categories too. -/
def category? (name : String) : Option CodePoints :=
  match name with
  | "any" => some .full
  | "ascii" => some .ascii
  | "assigned" => some (.complement Category.unassigned.members)
  | _ =>
    (Category.named.find? fun entry => entry.1.contains name).map fun entry =>
      Category.membersOf entry.2

/-- Names that are short for a category although they also name a property. -/
def namesCategory (name : String) : Bool := name == "cf" || name == "sc" || name == "lc"

/-- The set a single name stands for. -/
def set? (written : String) : Option CodePoints :=
  let name := loose written
  let property := if namesCategory name then none else Property.members? name
  property
    |>.or (category? name)
    |>.or ((Script.named? name).map Script.members)

/-- The set of characters that have the named value of the named property. -/
def valueSet? (writtenProperty writtenValue : String) : Option CodePoints :=
  let value := loose writtenValue
  match loose writtenProperty with
  | "gc" | "generalcategory" => category? value
  | "sc" | "script" => (Script.named? value).map Script.members
  | "scx" | "scriptextensions" => (Script.named? value).map Script.extendedMembers
  | "age" => Age.members? value
  | "gcb" | "graphemeclusterbreak" => Boundary.named? value Boundary.graphemeClasses
  | "wb" | "wordbreak" => Boundary.named? value Boundary.wordClasses
  | "sb" | "sentencebreak" => Boundary.named? value Boundary.sentenceClasses
  | _ => none

end RuleTree.PropertyName
