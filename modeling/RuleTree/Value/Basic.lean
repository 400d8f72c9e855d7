import RuleTree.Entries
import RuleTree.Matcher
import RuleTree.Value.Error

/-!
# Values

A value is a datum of its type or the nil of its type. Nil does not make types
meet: the nil integer and the nil string are different values. The type `nil`
has its nil and nothing else.

Lists and maps name their unit type. That everything in them has it cannot be
read off the type `Value`; `WellFormed` says it, and the functions that make
lists and maps check it. The entries of a map are in ascending order of their
names, and each name holds at least one value.
-/

namespace RuleTree

/-- A typed datum, which may be absent. -/
inductive Value
  | nil (type : Signature)
  | boolean (payload : Bool)
  | integer (payload : Int64)
  | string (payload : String)
  | regexp (payload : Matcher)
  | list (unit : Signature) (items : List Value)
  | map (unit : Signature) (entries : List (String × List Value))

namespace Value

instance : Inhabited Value := ⟨.nil .nil⟩

/-- The type of a value. -/
def signature : Value → Signature
  | .nil type => type
  | .boolean _ => .boolean
  | .integer _ => .integer
  | .string _ => .string
  | .regexp _ => .regexp
  | .list unit _ => .list unit
  | .map unit _ => .map unit

/-- The kind of a value. -/
def base : Value → BaseType
  | .nil type => type.base
  | .boolean _ => .boolean
  | .integer _ => .integer
  | .string _ => .string
  | .regexp _ => .regexp
  | .list _ _ => .list
  | .map _ _ => .map

/-- The unit type of a list or map, absent or not. -/
def unit? : Value → Option Signature
  | .nil type => type.unit?
  | .list unit _ | .map unit _ => some unit
  | _ => none

/-- The kind of a value is the outermost part of its type. -/
theorem base_eq (value : Value) : value.base = value.signature.base := by
  cases value <;> rfl

/-- The unit type of a value is that of its type. -/
theorem unit?_eq (value : Value) : value.unit? = value.signature.unit? := by
  cases value <;> rfl

/-- Whether the value is absent. -/
def isNil : Value → Bool
  | .nil _ => true
  | _ => false

/-- Whether the value is of that type. The type of the value is not built for it: kinds are
compared, and unit types. -/
def hasSignature (value : Value) (type : Signature) : Bool :=
  value.base == type.base && value.unit? == type.unit?

/-- Whether two values are of one type. -/
def sameType (left right : Value) : Bool :=
  left.base == right.base && left.unit? == right.unit?

/-- The kind and the unit type of a value tell whether it is of a type, at any nesting. -/
theorem parts_eq_iff {value : Value} {type : Signature} :
    value.base = type.base ∧ value.unit? = type.unit? ↔ value.signature = type := by
  rw [base_eq, unit?_eq, Signature.eq_iff_parts]

/-- The check of a type is the comparison of types in full. -/
theorem hasSignature_eq (value : Value) (type : Signature) :
    value.hasSignature type = (value.signature == type) := by
  rw [Bool.eq_iff_iff, hasSignature, Bool.and_eq_true, beq_iff_eq, beq_iff_eq, beq_iff_eq,
    parts_eq_iff]

/-- Values that pass for values of one type have the same type in full. -/
theorem sameType_eq (left right : Value) :
    left.sameType right = (left.signature == right.signature) := by
  rw [← hasSignature_eq, hasSignature, sameType, base_eq right, unit?_eq right]

/-- The list of the items, each of which has to be of the unit type. The first
that is not is reported. -/
def ofItems (unit : Signature) (items : List Value) : Except ValueError Value :=
  match items.find? fun item => !item.hasSignature unit with
  | some item => .error (.typeMismatch unit item.signature)
  | none => .ok (.list unit items)

/-- The map of the entries, which have to be in ascending order of their names.
Names without values are dropped. Every value has to be of the unit type; the
first that is not, in the order of names, is reported. -/
def ofEntries (unit : Signature) (entries : List (String × List Value)) :
    Except ValueError Value :=
  let kept := entries.filter fun entry => !entry.2.isEmpty
  match (kept.flatMap (·.2)).find? fun value => !value.hasSignature unit with
  | some value => .error (.typeMismatch unit value.signature)
  | none => .ok (.map unit kept)

/-- The value of a base type to start from, where it has one. -/
def initial? : BaseType → Option Value
  | .boolean => some (.boolean false)
  | .integer => some (.integer 0)
  | .string => some (.string "")
  | .list | .map | .nil | .regexp => none

/-! ## Well-formed values -/

mutual
/-- At every depth, what is in a list or map is of its unit type, no name of a map
is without values, and names are in order. -/
inductive WellFormed : Value → Prop
  | nil (type : Signature) : WellFormed (.nil type)
  | boolean (payload : Bool) : WellFormed (.boolean payload)
  | integer (payload : Int64) : WellFormed (.integer payload)
  | string (payload : String) : WellFormed (.string payload)
  | regexp (payload : Matcher) : WellFormed (.regexp payload)
  | list (unit : Signature) (items : List Value) (inside : AllOf unit items) :
      WellFormed (.list unit items)
  | map (unit : Signature) (entries : List (String × List Value)) (inside : EntriesOf unit entries)
      (ordered : Entries.Ascending (entries.map (·.1))) : WellFormed (.map unit entries)

/-- Every value is well formed and of the type. -/
inductive AllOf : Signature → List Value → Prop
  | nil (unit : Signature) : AllOf unit []
  | cons (unit : Signature) (value : Value) (rest : List Value)
      (formed : WellFormed value) (typed : value.signature = unit) (others : AllOf unit rest) :
      AllOf unit (value :: rest)

/-- Every entry has at least one value, and its values are well formed and of the
type. -/
inductive EntriesOf : Signature → List (String × List Value) → Prop
  | nil (unit : Signature) : EntriesOf unit []
  | cons (unit : Signature) (name : String) (values : List Value)
      (rest : List (String × List Value)) (occupied : values ≠ []) (inside : AllOf unit values)
      (others : EntriesOf unit rest) : EntriesOf unit ((name, values) :: rest)
end

end Value

end RuleTree
