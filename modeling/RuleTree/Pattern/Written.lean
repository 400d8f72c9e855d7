/-!
# Patterns as written

The tree of a pattern before its flags take effect. Nothing has been looked up:
a named set is still a name, and what a letter stands for depends on flags that
may be changed in the middle of a group.

Which of several matches is found first cannot be observed here, only whether
there is one. A group keeps no name. Greed is kept, since two repetitions that
differ in it are not alike.
-/

namespace RuleTree.Pattern

/-- A mode that a pattern can switch on and off. -/
inductive Flag
  | ignoreCase
  | manyLines
  | dotAll
  | swapGreed
  | unicode
  | carriageReturns
  | verbose
  deriving DecidableEq, Repr

/-- The modes that a pattern sets, with their new state, in the order written. -/
abbrev FlagChange := List (Flag × Bool)

/-- The new state of a mode, if the change mentions it. -/
def FlagChange.state? (change : FlagChange) (flag : Flag) : Option Bool := change.lookup flag

/-- A character of a pattern. The form `\xNN` of two digits stands for a byte
where the pattern is not read as Unicode. -/
structure Literal where
  char : Char
  isByte : Bool
  deriving DecidableEq, Repr

/-- The classes written with one letter. -/
inductive LetterClass
  | digit
  | space
  | word
  deriving DecidableEq, Repr

/-- The classes of ASCII characters written by name between colons. -/
inductive AsciiClass
  | alnum
  | alpha
  | ascii
  | blank
  | cntrl
  | digit
  | graph
  | lower
  | print
  | punct
  | space
  | upper
  | word
  | xdigit
  deriving DecidableEq, Repr

/-- A set asked for by name: of a property, or of a value of a property. -/
inductive SetName
  | of (name : String)
  | value (property value : String)
  deriving DecidableEq, Repr

/-- A position in the text that a pattern can ask for. -/
inductive Anchor
  | lineStart
  | lineEnd
  | textStart
  | textEnd
  | wordBoundary
  | notWordBoundary
  | wordStart
  | wordEnd
  | wordStartHalf
  | wordEndHalf
  deriving DecidableEq, Repr

/-- The smallest parts of a pattern. -/
inductive Atom
  | literal (literal : Literal)
  | dot
  | anchor (anchor : Anchor)
  | letterClass (negated : Bool) (kind : LetterClass)
  | named (negated : Bool) (name : SetName)
  deriving DecidableEq, Repr

/-- Operations between sets in brackets. They group to the left. -/
inductive SetOperation
  | intersection
  | difference
  | symmetricDifference
  deriving DecidableEq, Repr

/-- What stands between brackets. -/
inductive SetItem
  | empty
  | literal (literal : Literal)
  | range (low high : Literal)
  | asciiClass (negated : Bool) (kind : AsciiClass)
  | letterClass (negated : Bool) (kind : LetterClass)
  | named (negated : Bool) (name : SetName)
  | bracket (negated : Bool) (inner : SetItem)
  | union (items : List SetItem)
  | combine (operation : SetOperation) (left right : SetItem)
  deriving Repr

/-- A pattern as written. A repetition without a high end is unbounded, and it is
greedy unless a question mark follows it. -/
inductive Written
  | empty
  | flags (change : FlagChange)
  | atom (atom : Atom)
  | bracket (negated : Bool) (inner : SetItem)
  | repetition (low : Nat) (high : Option Nat) (greedy : Bool) (body : Written)
  | group (capturing : Bool) (change : FlagChange) (body : Written)
  | alternation (branches : List Written)
  | concat (parts : List Written)
  deriving Repr

/-- The classes of ASCII characters with their names. -/
def AsciiClass.named : List (String × AsciiClass) :=
  [("alnum", .alnum), ("alpha", .alpha), ("ascii", .ascii), ("blank", .blank),
   ("cntrl", .cntrl), ("digit", .digit), ("graph", .graph), ("lower", .lower),
   ("print", .print), ("punct", .punct), ("space", .space), ("upper", .upper),
   ("word", .word), ("xdigit", .xdigit)]

end RuleTree.Pattern
