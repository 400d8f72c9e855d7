import RuleTree.Value.Basic

/-!
# Operations on values

Comparison is for integers, search for lists and maps, reference for maps; no
value can be assigned to. An operation applied to a value that does not have it
is an error, also where the value is nil: whether an operation exists depends on
the type alone.
-/

namespace RuleTree.Value

/-- Minus one, zero or one, as the first integer is less than, equal to or greater
than the second. -/
def order (left right : Int64) : Int64 :=
  if left < right then -1 else if right < left then 1 else 0

/-- Compare two integers. A nil among them makes the result nil. -/
def compare (left right : Value) : Except ValueError Value :=
  if left.sameType right then
    match left, right with
    | .integer left, .integer right => .ok (.integer (order left right))
    | left, _ =>
      if left.signature = .integer then .ok (.nil .integer)
      else .error (.unsupported .compare left.base)
  else .error (.incompatibleTypes left.signature right.signature)

/-- The text that stands for a scalar in matching and searching. Nil has none, and
lists and maps are no scalars. -/
def naturalString (value : Value) : Except ValueError (Option String) :=
  match value with
  | .boolean true => .ok (some "true")
  | .boolean false => .ok (some "false")
  | .integer payload => .ok (some (Numeral.integer payload.toInt))
  | .string payload => .ok (some payload)
  | .regexp payload => .ok (some payload.source)
  | value =>
    match value.signature with
    | .list _ | .map _ => .error (.unsupported .naturalString value.base)
    | _ => .ok none

/-- Whether the type is one of text. -/
def isTextual (value : Value) : Bool :=
  value.hasSignature .string || value.hasSignature .regexp

/-- Whether an item of a list may be found by a key: both are of one type, or both
are of types of text. -/
def isFoundBy (item key : Value) : Bool := item.sameType key || (item.isTextual && key.isTextual)

/-- The items that the key may find and whose natural string is the given one, in
their order. -/
def matchingItems (key : Value) (needle : String) : List Value → Except ValueError (List Value)
  | [] => .ok []
  | item :: rest =>
    if item.isFoundBy key then do
      let text ← item.naturalString
      let found ← matchingItems key needle rest
      .ok (if text = some needle then item :: found else found)
    else matchingItems key needle rest

/-- Every value that belongs to a key: the items of a list that match it, or the
values of a map under its natural string. Nothing belongs to a nil key, and
nothing is found in a nil collection. -/
def searchAll (collection key : Value) : Except ValueError (List Value) :=
  match collection with
  | .list _ items => do
    match ← key.naturalString with
    | some needle => matchingItems key needle items
    | none => .ok []
  | .map _ entries => do
    match ← key.naturalString with
    | some needle => .ok ((entries.lookup needle).getD [])
    | none => .ok []
  | .nil (.list _) | .nil (.map _) => do
    let _ ← key.naturalString
    .ok []
  | collection => .error (.unsupported .search collection.base)

/-- The first value under a name of a map, or the nil of the unit type if there is
none. -/
def reference (container : Value) (key : Key) : Except ValueError Value :=
  match container, key with
  | .map unit entries, .named name =>
    .ok (((entries.lookup name).bind List.head?).getD (.nil unit))
  | .nil (.map unit), .named _ => .ok (.nil unit)
  | .map _ _, .indexed _ | .nil (.map _), .indexed _ => .error (.invalidKey key)
  | container, _ => .error (.unsupported .reference container.base)

/-- Values never change, so none can be assigned to. -/
def assign (container : Value) (_ : Key) (_ : Value) : Except ValueError Unit :=
  .error (.unsupported .assign container.base)

/-! ## Views

A view gives the datum of a value of the right type, and nothing for its nil. -/

/-- The truth value of a boolean. -/
def asBoolean : Value → Except ValueError (Option Bool)
  | .boolean payload => .ok (some payload)
  | .nil .boolean => .ok none
  | value => .error (.typeMismatch .boolean value.signature)

/-- The text of a string. -/
def asString : Value → Except ValueError (Option String)
  | .string payload => .ok (some payload)
  | .nil .string => .ok none
  | value => .error (.typeMismatch .string value.signature)

/-- The matcher of a regular expression. -/
def asMatcher : Value → Except ValueError (Option Matcher)
  | .regexp payload => .ok (some payload)
  | .nil .regexp => .ok none
  | value => .error (.typeMismatch .regexp value.signature)

/-- The items of a list. -/
def asItems : Value → Except ValueError (Option (List Value))
  | .list _ items => .ok (some items)
  | .nil (.list _) => .ok none
  | value => .error (.unsupported .iterate value.base)

end RuleTree.Value
