/-!
# Entries in the order of their names

Objects, maps and contexts hold one datum under each name. They are kept in
strictly ascending order of names by code point, so what holds the same data
under the same names is the same list. Looking a name up is `List.lookup`.
-/

namespace RuleTree.Entries

/-- Names in strictly ascending order. -/
def Ascending : List String → Prop
  | [] => True
  | [_] => True
  | first :: second :: rest => first < second ∧ Ascending (second :: rest)

/-- Put a datum under a name, in the place of one that is there already. -/
def insert {α : Type} (name : String) (datum : α) : List (String × α) → List (String × α)
  | [] => [(name, datum)]
  | (other, held) :: rest =>
    if name < other then (name, datum) :: (other, held) :: rest
    else if name = other then (name, datum) :: rest
    else (other, held) :: insert name datum rest

/-- The entries in order; of several with one name the last counts. -/
def ofList {α : Type} (entries : List (String × α)) : List (String × α) :=
  entries.foldl (fun sorted (name, datum) => insert name datum sorted) []

end RuleTree.Entries
