import Std.Data.HashMap
import RuleTree.Pattern.Regular

/-!
# How large a pattern is

A pattern may be short and still stand for an enormous automaton, as counted
repetitions multiply. Its size is measured on automata that read UTF-8 byte by
byte, one for each direction, in the units of memory they would take: a state
takes 32, an alternative 4, and a range of bytes in a state with several 8. A
pattern is refused when either automaton takes more than ten mebibytes.

A set of characters becomes a tree of byte ranges. Forwards, equal subtrees are
shared; backwards, byte sequences share what they have in common at their ends. A
choice between literals becomes a tree of their bytes, in which literals share
what they begin with, or backwards what they end with. No automaton is needed for
a choice between very many literals and nothing else.
-/

namespace RuleTree.Pattern.Size

/-- The greatest size of an accepted pattern. -/
def limit : Nat := 10 * Nat.pow 2 20

/-- What one state takes. -/
def state : Nat := 32

/-- What one alternative of a state takes. -/
def branch : Nat := 4

/-- What one range of bytes takes in a state with several. -/
def range : Nat := 8

/-- The ranges of bytes of consecutive characters, one range for each byte. -/
abbrev ByteRanges := List Run

/-- The byte ranges of numbers written in continuation bytes of six bits each,
from the most significant, below a first byte to which `tag` is added. The
numbers from `low` to `high` have so many continuation bytes. -/
def sequences (tag : Nat) : (continuations : Nat) → (low high : Nat) → List ByteRanges
  | 0, low, high => [[⟨tag + low, tag + high⟩]]
  | n + 1, low, high =>
    let unit := Nat.pow 64 (n + 1)
    let first := low / unit
    let last := high / unit
    let rest := sequences 0x80 n
    let below (byte : Nat) (tails : List ByteRanges) :=
      tails.map fun tail => (⟨tag + byte, tag + byte⟩ : Run) :: tail
    if first = last then
      below first (rest (low % unit) (high % unit))
    else
      let cutFirst := low % unit ≠ 0
      let cutLast := high % unit ≠ unit - 1
      let start := if cutFirst then first + 1 else first
      let stop := if cutLast then last else last + 1
      (if cutFirst then below first (rest (low % unit) (unit - 1)) else []) ++
      (if start < stop then
        (rest 0 (unit - 1)).map fun tail => (⟨tag + start, tag + stop - 1⟩ : Run) :: tail
       else []) ++
      (if cutLast then below last (rest 0 (high % unit)) else [])

/-- The characters encoded in a given number of bytes, with the tag of their
first byte. Surrogates are left out. -/
def lengths : List (Run × Nat × Nat) :=
  [(⟨0, 0x7F⟩, 0, 0), (⟨0x80, 0x7FF⟩, 0xC0, 1), (⟨0x800, 0xD7FF⟩, 0xE0, 2),
   (⟨0xE000, 0xFFFF⟩, 0xE0, 2), (⟨0x10000, 0x10FFFF⟩, 0xF0, 3)]

/-- The byte ranges of the characters of a run, in ascending order. -/
def byteRanges (run : Run) : List ByteRanges :=
  lengths.flatMap fun (all, tag, continuations) =>
    let low := max run.low all.low
    let high := min run.high all.high
    if low ≤ high then sequences tag continuations low high else []

/-- A tree of byte ranges, leading from each range to a smaller tree. The tree
without ranges is the end. -/
inductive Tree
  | node (ranges : List (Run × Tree))
  deriving Repr

/-- The tree of byte ranges that all have the given length. Sequences that begin
with the same range have to be neighbours. -/
def tree : (length : Nat) → List ByteRanges → Tree
  | 0, _ => .node []
  | n + 1, all =>
    let groups := all.splitBy fun first second => first.head? == second.head?
    .node (groups.filterMap fun group =>
      match group.head?.bind List.head? with
      | some first => some (first, tree n (group.map List.tail))
      | none => none)

/-- States found so far, by their ranges and the numbers of the states those lead
to. State 0 is the end. -/
abbrev Shared := Std.HashMap (List (Nat × Nat × Nat)) Nat

mutual
/-- Find or add the state of a tree; with it goes what the added states take. -/
def share (shared : Shared) (taken : Nat) : Tree → Nat × Shared × Nat
  | .node [] => (0, shared, taken)
  | .node ranges =>
    let (key, shared, taken) := shareAll shared taken ranges
    match shared[key]? with
    | some found => (found, shared, taken)
    | none =>
      let added := shared.size + 1
      (added, shared.insert key added, taken + state + range * key.length)

/-- Find or add the states that the ranges lead to. -/
def shareAll (shared : Shared) (taken : Nat) :
    List (Run × Tree) → List (Nat × Nat × Nat) × Shared × Nat
  | [] => ([], shared, taken)
  | (run, next) :: rest =>
    let (number, shared, taken) := share shared taken next
    let (keys, shared, taken) := shareAll shared taken rest
    ((run.low, run.high, number) :: keys, shared, taken)
end

/-- What a set of characters takes forwards. Sequences of every length meet in
one first state and in one end. -/
def setForwards (set : CodePoints) : Nat :=
  let all := set.runs.flatMap byteRanges
  let roots := [1, 2, 3, 4].flatMap fun length =>
    match tree length (all.filter (·.length == length)) with
    | .node ranges => ranges
  (share {} 0 (.node roots)).2.2 + state

/-- The distinct beginnings, of at least one range, of byte ranges in order. Of
neighbours only those beginnings count that the one before does not have. -/
def beginnings (previous : ByteRanges) : List ByteRanges → Nat
  | [] => 0
  | next :: rest =>
    let common := ((previous.zip next).takeWhile fun (first, second) => first == second).length
    next.length - common + beginnings next rest

/-- What a set of characters takes backwards. -/
def setBackwards (set : CodePoints) : Nat :=
  let all := set.runs.flatMap byteRanges
  2 * state + branch * all.length + state * beginnings [] all

/-- What a set of characters takes. ASCII needs one state with several ranges. -/
def chars (backwards : Bool) (set : CodePoints) : Nat :=
  if set.isAscii then 2 * state + range * set.runs.length
  else if backwards then setBackwards set else setForwards set

/-- The bytes of a literal, in the order in which they are read. -/
def literalBytes (backwards : Bool) (text : List Char) : List UInt8 :=
  let bytes := text.flatMap String.utf8EncodeChar
  if backwards then bytes.reverse else bytes

/-- A tree of literals. Whenever a literal ends in a node, the transitions that
were added before are closed, and further literals only share those added since.
The closed transitions fall into stretches of the given lengths. -/
inductive LiteralTree
  | node (stretches : List Nat) (closed latest : List (UInt8 × LiteralTree))
  deriving Repr

namespace LiteralTree

/-- The tree without literals. -/
def start : LiteralTree := .node [] [] []

/-- Add a literal. That it ends in a node is not noted again before the node has
transitions. -/
def add : List UInt8 → LiteralTree → LiteralTree
  | [], .node stretches closed latest =>
    if closed.isEmpty && latest.isEmpty && !stretches.isEmpty then .node stretches closed latest
    else .node (latest.length :: stretches) (latest ++ closed) []
  | byte :: rest, .node stretches closed latest =>
    let next := add rest ((latest.lookup byte).getD start)
    .node stretches closed ((byte, next) :: latest.filter (·.1 != byte))

/-- The tree of the given literals. -/
def ofLiterals (literals : List (List UInt8)) : LiteralTree := literals.foldl (flip add) start

/-- What a stretch of transitions takes in a node. -/
def stretch (length : Nat) : Nat :=
  match length with
  | 0 => 0
  | 1 => branch + state
  | length => branch + state + range * length

mutual
/-- What a tree takes, without the common end. A node without transitions is the
end; any other chooses between its stretches, and the end for each literal that
ends in it. -/
def size : LiteralTree → Nat
  | .node _ [] [] => 0
  | .node stretches closed latest =>
    state + branch * stretches.length + (stretches.map stretch).sum + stretch latest.length +
      sizes closed + sizes latest

/-- What the trees take to which transitions lead. -/
def sizes : List (UInt8 × LiteralTree) → Nat
  | [] => 0
  | (_, next) :: rest => next.size + sizes rest
end

end LiteralTree

/-- The literals, if each of the branches is one. -/
def literals? (branches : List Regular) : Option (List (List Char)) :=
  branches.mapM fun
    | .literal text => some text
    | _ => none

/-- What a choice between literals takes. -/
def literalChoice (backwards : Bool) (literals : List (List Char)) : Nat :=
  state + (LiteralTree.ofLiterals (literals.map (literalBytes backwards))).size

mutual
/-- What an expression takes in the automaton of a direction. Only the automaton
that reads forwards remembers groups. -/
def expression (backwards : Bool) : Regular → Nat
  | .empty => state
  | .literal text => state * (text.map Char.utf8Size).sum
  | .chars _ set => chars backwards set
  | .look _ => state
  | .group body => (if backwards then 0 else 2 * state) + expression backwards body
  | .repetition low high _ body =>
    let one := expression backwards body
    match low, high with
    | 0, some 1 => one + 2 * (state + branch)
    | 0, none =>
      if body.takesSome then one + state + 2 * branch else one + 3 * state + 4 * branch
    | low, none => low * one + state + 2 * branch
    | low, some high =>
      let fixed := if low = 0 then state else low * one
      if low = high then fixed
      else fixed + state + (high - low) * (one + state + 2 * branch)
  | .concat parts => expressions backwards parts
  | .choice branches =>
    match literals? branches with
    | some literals => literalChoice backwards literals
    | none => 2 * state + branch * branches.length + expressions backwards branches

/-- What several expressions take together. -/
def expressions (backwards : Bool) : List Regular → Nat
  | [] => 0
  | part :: rest => expression backwards part + expressions backwards rest
end

/-- What the automaton of a direction takes. Around the expression stand the search
for a beginning, unless the expression is anchored, and the accepting state. -/
def automaton (backwards : Bool) (regular : Regular) : Nat :=
  let search := if regular.isAnchored backwards then state else 3 * state + range + 2 * branch
  let whole := if backwards then 0 else 2 * state
  search + whole + expression backwards regular + state

/-- How many literals a choice has for which no automaton is needed. -/
def manyLiterals : Nat := 3000

/-- Whether an expression is a choice between very many literals. -/
def isLiteralTable : Regular → Bool
  | .choice branches => manyLiterals ≤ branches.length && (literals? branches).isSome
  | _ => false

/-- Whether both automata of an expression are within the limit, or not needed. -/
def isWithinLimit (regular : Regular) : Bool :=
  isLiteralTable regular || (automaton false regular ≤ limit && automaton true regular ≤ limit)

end RuleTree.Pattern.Size
