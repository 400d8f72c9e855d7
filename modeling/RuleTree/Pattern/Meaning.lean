import RuleTree.Pattern.Written
import RuleTree.Pattern.Regular
import RuleTree.Unicode.PropertyName
import RuleTree.Unicode.CaseFolding

/-!
# The meaning of a pattern

Reading the tree from left to right, each part means what the flags in force
make of it. A change of flags holds up to the end of its group.

The text is always Unicode, so a part that could match half a character has no
meaning, and neither has the pattern it stands in: outside Unicode mode that is
the dot, every negated set, every set by name and every byte above ASCII.
-/

namespace RuleTree.Pattern

/-- The modes in force. -/
structure Modes where
  ignoreCase : Bool := false
  manyLines : Bool := false
  dotAll : Bool := false
  swapGreed : Bool := false
  unicode : Bool := true
  carriageReturns : Bool := false

/-- The modes after one flag has been set or cleared. Verbosity is a matter of
reading only. -/
def Modes.set (modes : Modes) : Flag × Bool → Modes
  | (.ignoreCase, state) => { modes with ignoreCase := state }
  | (.manyLines, state) => { modes with manyLines := state }
  | (.dotAll, state) => { modes with dotAll := state }
  | (.swapGreed, state) => { modes with swapGreed := state }
  | (.unicode, state) => { modes with unicode := state }
  | (.carriageReturns, state) => { modes with carriageReturns := state }
  | (.verbose, _) => modes

/-- The modes after a change. -/
def Modes.change (modes : Modes) (change : FlagChange) : Modes := change.foldl Modes.set modes

namespace Meaning

open CodePoints

/-- ASCII letters, digits and the low line. -/
def asciiWord : CodePoints := ofTable ["30-39 41-5A 5F 61-7A"]

/-- The white space of ASCII. -/
def asciiSpace : CodePoints := ofTable ["9-D 20"]

/-- The members of a class of ASCII characters. -/
def asciiClass : AsciiClass → CodePoints
  | .alnum => ofTable ["30-39 41-5A 61-7A"]
  | .alpha => ofTable ["41-5A 61-7A"]
  | .ascii => .ascii
  | .blank => ofTable ["9 20"]
  | .cntrl => ofTable ["0-1F 7F"]
  | .digit => ofTable ["30-39"]
  | .graph => ofTable ["21-7E"]
  | .lower => ofTable ["61-7A"]
  | .print => ofTable ["20-7E"]
  | .punct => ofTable ["21-2F 3A-40 5B-60 7B-7E"]
  | .space => asciiSpace
  | .upper => ofTable ["41-5A"]
  | .word => asciiWord
  | .xdigit => ofTable ["30-39 41-46 61-66"]

/-- The members of a class written with one letter. -/
def letterClass (unicode : Bool) : LetterClass → CodePoints
  | .digit => if unicode then Category.decimalNumber.members else ofTable ["30-39"]
  | .space => if unicode then Property.whiteSpace else asciiSpace
  | .word => if unicode then Property.word else asciiWord

/-- The set with all characters that differ from a member only in case, if case
is to be ignored. -/
def foldCase (modes : Modes) (set : CodePoints) : CodePoints :=
  if modes.ignoreCase then
    if modes.unicode then CaseFolding.close set else CaseFolding.closeAscii set
  else
    set

/-- The complement, if it is asked for. Outside Unicode mode it would hold parts
of characters. -/
def negate? (modes : Modes) (negated : Bool) (set : CodePoints) : Option CodePoints :=
  if !negated then some set else if modes.unicode then some set.complement else none

/-- A class of ASCII characters. -/
def asciiSet? (modes : Modes) (negated : Bool) (kind : AsciiClass) : Option CodePoints :=
  negate? modes negated (foldCase modes (asciiClass kind))

/-- A class written with one letter. These classes hold with each member all its
cases, so ignoring case adds nothing. -/
def letterSet? (modes : Modes) (negated : Bool) (kind : LetterClass) : Option CodePoints :=
  negate? modes negated (letterClass modes.unicode kind)

/-- A set by name. -/
def namedSet? (modes : Modes) (negated : Bool) (name : SetName) : Option CodePoints := do
  let set ← match name with
    | .of name => PropertyName.set? name
    | .value property value => PropertyName.valueSet? property value
  if modes.unicode then negate? modes negated (foldCase modes set) else none

/-- The code point of a literal in brackets. Outside Unicode mode it has to be
ASCII. -/
def member? (modes : Modes) (literal : Literal) : Option Nat :=
  let point := literal.char.toNat
  if modes.unicode || point ≤ 0x7F then some point else none

/-- The result of a set operation. -/
def operate (operation : SetOperation) (left right : CodePoints) : CodePoints :=
  match operation with
  | .intersection => left.inter right
  | .difference => left.diff right
  | .symmetricDifference => left.symmetricDiff right

mutual
/-- The members of an item of a bracket, before the bracket ignores case. -/
def itemSet? (modes : Modes) : SetItem → Option CodePoints
  | .empty => some .empty
  | .literal literal => (member? modes literal).map single
  | .range low high => do
    let low ← member? modes low
    let high ← member? modes high
    some (between low high)
  | .asciiClass negated kind => asciiSet? modes negated kind
  | .letterClass negated kind => letterSet? modes negated kind
  | .named negated name => namedSet? modes negated name
  | .bracket negated inner => do
    let set ← itemSet? modes inner
    negate? modes negated (foldCase modes set)
  | .union items => (itemSets? modes items).map .unions
  | .combine operation left right => do
    let left ← itemSet? modes left
    let right ← itemSet? modes right
    some (operate operation (foldCase modes left) (foldCase modes right))

/-- The members of each item. -/
def itemSets? (modes : Modes) : List SetItem → Option (List CodePoints)
  | [] => some []
  | item :: rest => do
    let set ← itemSet? modes item
    let sets ← itemSets? modes rest
    some (set :: sets)
end

/-- Any character, except the ends of lines unless they are asked for. -/
def dot? (modes : Modes) : Option CodePoints :=
  if !modes.unicode then none
  else if modes.dotAll then some .full
  else if modes.carriageReturns then some (.complement (.ofChars ['\n', '\r']))
  else some (.complement (.ofChar '\n'))

/-- The position an anchor asks for. -/
def look (modes : Modes) : Anchor → Look
  | .lineStart =>
    if !modes.manyLines then .textStart
    else if modes.carriageReturns then .returnLineStart else .lineStart
  | .lineEnd =>
    if !modes.manyLines then .textEnd
    else if modes.carriageReturns then .returnLineEnd else .lineEnd
  | .textStart => .textStart
  | .textEnd => .textEnd
  | .wordBoundary => .wordBoundary modes.unicode
  | .notWordBoundary => .notWordBoundary modes.unicode
  | .wordStart => .wordStart modes.unicode
  | .wordEnd => .wordEnd modes.unicode
  | .wordStartHalf => .wordStartHalf modes.unicode
  | .wordEndHalf => .wordEndHalf modes.unicode

/-- The meaning of an atom. A byte above ASCII has none outside Unicode mode. -/
def atom? (modes : Modes) : Atom → Option Regular
  | .literal literal =>
    if literal.isByte && !modes.unicode && 0x7F < literal.char.toNat then none
    else some (.ofSet modes.unicode (foldCase modes (.ofChar literal.char)))
  | .dot => (dot? modes).map (.ofSet modes.unicode)
  | .anchor anchor => some (.look (look modes anchor))
  | .letterClass negated kind => (letterSet? modes negated kind).map (.ofSet modes.unicode)
  | .named negated name => (namedSet? modes negated name).map (.ofSet modes.unicode)

mutual
/-- The meaning of a pattern under the given modes, and the modes after it. -/
def regular? (modes : Modes) : Written → Option (Regular × Modes)
  | .empty => some (.empty, modes)
  | .flags change => some (.empty, modes.change change)
  | .atom atom => (atom? modes atom).map (·, modes)
  | .bracket negated inner => do
    let set ← itemSet? modes inner
    let set ← negate? modes negated (foldCase modes set)
    some (.ofSet modes.unicode set, modes)
  | .repetition low high greedy body => do
    let (body, modes) ← regular? modes body
    some (.repeated low high (greedy != modes.swapGreed) body, modes)
  | .group capturing change body => do
    let (body, _) ← regular? (modes.change change) body
    some (if capturing then .group body else body, modes)
  | .alternation branches => do
    let (branches, modes) ← regulars? modes branches
    some (.oneOf branches, modes)
  | .concat parts => do
    let (parts, modes) ← regulars? modes parts
    some (.sequence parts, modes)

/-- The meanings of several patterns, each under the modes its predecessor left. -/
def regulars? (modes : Modes) : List Written → Option (List Regular × Modes)
  | [] => some ([], modes)
  | part :: rest => do
    let (regular, modes) ← regular? modes part
    let (regulars, modes) ← regulars? modes rest
    some (regular :: regulars, modes)
end

end Meaning

/-- The meaning of a pattern when no flag has been given. -/
def Written.meaning? (written : Written) : Option Regular :=
  (Meaning.regular? {} written).map (·.1)

end RuleTree.Pattern
