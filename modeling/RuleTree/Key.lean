import RuleTree.Text.Quoted

/-!
# Keys

A key addresses a slot of a context or an entry of a map. Both are stored under
names; an index is a key that a context of another kind may understand.
-/

namespace RuleTree

/-- The address of a slot or an entry. -/
inductive Key
  | named (name : String)
  | indexed (index : Int64)
  deriving DecidableEq

namespace Key

/-- The name, of a key that is one. -/
def name? : Key → Option String
  | .named name => some name
  | .indexed _ => none

/-- The text of a key in messages. -/
def toText : Key → String
  | .named name => Quoted.quoted name
  | .indexed index => "#" ++ Numeral.integer index.toInt

end Key

end RuleTree
