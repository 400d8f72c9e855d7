import RuleTree.Value.Basic

/-!
# Trees of operators

A node knows where it was written and the type of every value it can yield.
Both are fixed when the node is built, so asking for the type of a tree takes no
walk through it. A node has a label where the rule names what it reads or
writes; the label is for diagnosis and nothing depends on it.
-/

namespace RuleTree

/-- A place in the text of a rule. -/
structure Position where
  line : Nat
  column : Nat
  deriving DecidableEq, Repr

/-- The text of a position. -/
def Position.toText (position : Position) : String :=
  Numeral.natural position.line ++ ":" ++ Numeral.natural position.column

/-- The comparisons of two values. The last matches a string against a regular
expression. -/
inductive Comparison
  | equal
  | notEqual
  | less
  | lessEqual
  | greater
  | greaterEqual
  | matching
  deriving DecidableEq, Repr

/-- The name of a comparison. -/
def Comparison.name : Comparison → String
  | .equal => "=="
  | .notEqual => "!="
  | .less => "<"
  | .lessEqual => "<="
  | .greater => ">"
  | .greaterEqual => ">="
  | .matching => "match"

/-- What a search is for: whether there is a match, the first, or all. -/
inductive SearchKind
  | exist
  | find
  | findAll
  deriving DecidableEq, Repr

/-- The name of a search. -/
def SearchKind.name : SearchKind → String
  | .exist => "exist"
  | .find => "find"
  | .findAll => "findAll"

/-- Where a node was written and the type of what it yields. -/
structure Tag where
  position : Position
  type : Signature
  deriving DecidableEq, Repr

/-- A tree of operators. Slots belong to the context, entries to a value that
another tree yields. -/
inductive Expr
  | constant (tag : Tag) (value : Value)
  | slot (tag : Tag) (label : String) (key : Key)
  | entry (tag : Tag) (label : String) (key : Key) (source : Expr)
  | setSlot (tag : Tag) (label : String) (key : Key) (value : Expr)
  | setEntry (tag : Tag) (label : String) (key : Key) (value target : Expr)
  | compare (tag : Tag) (comparison : Comparison) (left right : Expr)
  | both (tag : Tag) (left right : Expr)
  | either (tag : Tag) (left right : Expr)
  | negation (tag : Tag) (operand : Expr)
  | branch (tag : Tag) (check consequent : Expr) (alternative : Option Expr)
  | loop (tag : Tag) (list body : Expr) (stop : Option Expr) (key : Key)
  | search (tag : Tag) (kind : SearchKind) (key collection : Expr) (fallback : Option Expr)
  | sequence (tag : Tag) (parts : List Expr)

namespace Expr

/-- Where a node was written and the type of what it yields. -/
def tag : Expr → Tag
  | constant tag _ | slot tag _ _ | entry tag _ _ _ | setSlot tag _ _ _ | setEntry tag _ _ _ _
  | compare tag _ _ _ | both tag _ _ | either tag _ _ | negation tag _ | branch tag _ _ _
  | loop tag _ _ _ _ | search tag _ _ _ _ | sequence tag _ => tag

/-- The type of every value the tree yields. -/
def type (expr : Expr) : Signature := expr.tag.type

/-- Where the root was written. -/
def position (expr : Expr) : Position := expr.tag.position

/-- The nil of the type of the tree. -/
def nilResult (expr : Expr) : Value := .nil expr.type

end Expr

end RuleTree
