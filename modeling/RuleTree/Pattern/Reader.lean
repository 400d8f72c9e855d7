import RuleTree.Pattern.Lexeme

/-!
# Reading a pattern

The reader keeps the groups and brackets it is inside of on a stack, so a deep
pattern costs memory and no recursion. Every finished piece carries how deep it
nests, and a piece that nests deeper than 250 is refused when it is finished.

Groups, brackets, repetitions, alternatives and sequences of more than one part
each add a level; so do unions and operations within brackets.
-/

namespace RuleTree.Pattern.Reader

/-- How deep a pattern may nest. -/
def maxDepth : Nat := 250

/-- A finished tree with its nesting depth. -/
structure Piece (α : Type) where
  tree : α
  depth : Nat

/-- A piece one level above others, unless it is too deep. -/
def wrap? {α β : Type} (tree : α) (parts : List (Piece β)) : Option (Piece α) :=
  let depth := 1 + parts.foldl (fun deepest part => max deepest part.depth) 0
  if depth ≤ maxDepth then some ⟨tree, depth⟩ else none

/-- A sequence of parts; a single part is itself and none is the empty pattern. -/
def sequence? (parts : List (Piece Written)) : Option (Piece Written) :=
  match parts with
  | [] => some ⟨.empty, 0⟩
  | [part] => some part
  | parts => wrap? (.concat (parts.map (·.tree))) parts

/-- The items of a bracket; a single item is itself and none is the empty set. -/
def union? (items : List (Piece SetItem)) : Option (Piece SetItem) :=
  match items with
  | [] => some ⟨.empty, 0⟩
  | [item] => some item
  | items => wrap? (.union (items.map (·.tree))) items

/-! ## Brackets -/

/-- What surrounds the items being read: an open bracket with the items before
it, or an operation with its left operand. The innermost is first. -/
inductive Frame
  | bracket (before : List (Piece SetItem)) (negated : Bool)
  | operation (operation : SetOperation) (left : Piece SetItem)

/-- Combine a finished right operand with the operation it belongs to, if any. -/
def applyPending (frames : List Frame) (right : Piece SetItem) :
    Option (Piece SetItem × List Frame) :=
  match frames with
  | .operation operation left :: frames =>
    (wrap? (.combine operation left.tree right.tree) [left, right]).map (·, frames)
  | frames => some (right, frames)

/-- The literal item of a character. -/
def plainItem (c : Char) : Piece SetItem := ⟨.literal ⟨c, false⟩, 0⟩

/-- Collect the hyphens that stand first in a bracket. The fuel bounds them. -/
def leadingHyphens (verbose : Bool) : Nat → List Char → List (Piece SetItem) × List Char
  | fuel + 1, '-' :: rest =>
    let (items, rest) := leadingHyphens verbose fuel (skip verbose rest)
    (plainItem '-' :: items, rest)
  | _, text => ([], text)

/-- Read what may stand first in a bracket, after its opening: a caret that
negates it, hyphens that stand for themselves, and, if there are none, a closing
bracket that stands for itself. The items are in reverse order. -/
def openBracket (verbose : Bool) (text : List Char) :
    (Bool × List (Piece SetItem)) × List Char :=
  let start := skip verbose text
  let (negated, rest) := match start with
    | '^' :: rest => (true, skip verbose rest)
    | rest => (false, rest)
  let (hyphens, rest) := leadingHyphens verbose rest.length rest
  match hyphens, rest with
  | [], ']' :: rest => ((negated, [plainItem ']']), skip verbose rest)
  | hyphens, rest => ((negated, hyphens), rest)

/-- The item of an atom, where it can stand in a bracket. -/
def itemOf? : Atom → Option SetItem
  | .literal literal => some (.literal literal)
  | .letterClass negated kind => some (.letterClass negated kind)
  | .named negated name => some (.named negated name)
  | .dot | .anchor _ => none

/-- Read a character or an escape in a bracket. -/
def readMember (verbose : Bool) : List Char → Option (Atom × List Char)
  | [] => none
  | '\\' :: rest => readEscape verbose rest
  | c :: rest => some (.literal ⟨c, false⟩, rest)

/-- The first character after blanks and at most one number sign, in verbose
mode; the first character otherwise. A hyphen before it is no range if it is a
hyphen or a closing bracket. -/
def peekAfter (verbose : Bool) (text : List Char) : Option Char :=
  if verbose then
    match text.dropWhile isBlank with
    | '#' :: rest => (rest.dropWhile isBlank).head?
    | rest => rest.head?
  else
    text.head?

/-- Read an item of a bracket: a character, a class or a range. -/
def readItem (verbose : Bool) (text : List Char) : Option (SetItem × List Char) := do
  let (first, rest) ← readMember verbose text
  let rest := skip verbose rest
  match rest with
  | [] => none
  | '-' :: afterHyphen =>
    let next := peekAfter verbose afterHyphen
    if next == some ']' || next == some '-' then
      (itemOf? first).map (·, rest)
    else do
      let (last, rest) ← readMember verbose (skip verbose afterHyphen)
      match first, last with
      | .literal low, .literal high =>
        if low.char ≤ high.char then some (.range low high, rest) else none
      | _, _ => none
  | rest => (itemOf? first).map (·, rest)

/-- Read the inside of brackets until the outermost is closed. Items are in
reverse order. The fuel bounds the number of items, operators and brackets. -/
def readBrackets (verbose : Bool) : Nat → List Frame → List (Piece SetItem) → List Char →
    Option (Piece Written × List Char)
  | 0, _, _, _ => none
  | fuel + 1, frames, items, text =>
    let operate (operation : SetOperation) (rest : List Char) := do
      let operand ← union? items.reverse
      let (left, frames) ← applyPending frames operand
      readBrackets verbose fuel (.operation operation left :: frames) [] rest
    match skip verbose text with
    | [] => none
    | '[' :: rest =>
      let nested (_ : Unit) :=
        let ((negated, inner), rest) := openBracket verbose rest
        readBrackets verbose fuel (.bracket items negated :: frames) inner rest
      match rest with
      | ':' :: name =>
        match readAsciiClass name with
        | some (item, rest) => readBrackets verbose fuel frames (⟨item, 0⟩ :: items) rest
        | none => nested ()
      | _ => nested ()
    | ']' :: rest => do
      let operand ← union? items.reverse
      let (inner, frames) ← applyPending frames operand
      match frames with
      | [.bracket _ negated] => (wrap? (.bracket negated inner.tree) [inner]).map (·, rest)
      | .bracket before negated :: frames =>
        let item ← wrap? (.bracket negated inner.tree) [inner]
        readBrackets verbose fuel frames (item :: before) rest
      | _ => none
    | '&' :: '&' :: rest => operate .intersection rest
    | '-' :: '-' :: rest => operate .difference rest
    | '~' :: '~' :: rest => operate .symmetricDifference rest
    | text => do
      let (item, rest) ← readItem verbose text
      readBrackets verbose fuel frames (⟨item, 0⟩ :: items) rest

/-- Read a whole bracket, after its opening. -/
def readBracket (verbose : Bool) (text : List Char) : Option (Piece Written × List Char) :=
  let ((negated, inner), rest) := openBracket verbose text
  readBrackets verbose (rest.length + 1) [.bracket [] negated] inner rest

/-! ## Groups -/

/-- The alternatives of a group that are finished and the parts of the one being
read, both in reverse order. -/
structure Level where
  finished : List (Piece Written)
  parts : List (Piece Written)

/-- The level of a group that has just been opened. -/
def Level.start : Level := ⟨[], []⟩

/-- The piece of a level that is at its end. -/
def Level.close? (level : Level) : Option (Piece Written) := do
  let last ← sequence? level.parts.reverse
  match level.finished with
  | [] => some last
  | finished =>
    let branches := (last :: finished).reverse
    wrap? (.alternation (branches.map (·.tree))) branches

/-- A group that is open: the level around it, how it began, and whether verbose
mode was on before it. -/
structure Outer where
  level : Level
  capturing : Bool
  change : FlagChange
  verbose : Bool

/-- Where the reader stands: in which groups, in which mode, and which names of
groups it has seen. -/
structure State where
  outer : List Outer
  level : Level
  verbose : Bool
  names : List String

/-- Add a part to the alternative being read. -/
def State.push (state : State) (part : Piece Written) : State :=
  { state with level := { state.level with parts := part :: state.level.parts } }

/-- Open a group. -/
def State.enter (state : State) (capturing : Bool) (change : FlagChange) : State :=
  { state with
    outer := ⟨state.level, capturing, change, state.verbose⟩ :: state.outer
    level := .start
    verbose := (change.state? .verbose).getD state.verbose }

/-- Begin the group or make the change of flags that was read. -/
def State.begin? (state : State) : GroupStart → Option State
  | .plain => some (state.enter true [])
  | .named name =>
    if state.names.contains name then none
    else some { state.enter true [] with names := name :: state.names }
  | .flagged change => some (state.enter false change)
  | .change change =>
    some { state.push ⟨.flags change, 0⟩ with
      verbose := (change.state? .verbose).getD state.verbose }

/-- Close the innermost group. -/
def State.leave? (state : State) : Option State :=
  match state.outer with
  | [] => none
  | group :: outer => do
    let body ← state.level.close?
    let piece ← wrap? (.group group.capturing group.change body.tree) [body]
    some ({ state with outer, level := group.level, verbose := group.verbose }.push piece)

/-- Go on to the next alternative. -/
def State.nextBranch? (state : State) : Option State := do
  let branch ← sequence? state.level.parts.reverse
  some { state with level := ⟨branch :: state.level.finished, []⟩ }

/-- Repeat the last part. A change of flags is no part that can be repeated. -/
def State.repeat? (state : State) (low : Nat) (high : Option Nat) (greedy : Bool) :
    Option State :=
  match state.level.parts with
  | [] => none
  | last :: parts =>
    match last.tree with
    | .flags _ | .empty => none
    | tree => do
      let piece ← wrap? (.repetition low high greedy tree) [last]
      some { state with level := { state.level with parts := piece :: parts } }

/-- Read the sign that makes a repetition reluctant. It is greedy without. -/
def readGreed : List Char → Bool × List Char
  | '?' :: rest => (false, rest)
  | rest => (true, rest)

/-- Read the rest of a pattern. The fuel bounds the number of parts. -/
def readParts : Nat → State → List Char → Option Written
  | 0, _, _ => none
  | fuel + 1, state, text =>
    match skip state.verbose text with
    | [] =>
      if state.outer.isEmpty then (state.level.close?).map (·.tree) else none
    | '(' :: rest => do
      let (start, rest) ← readGroupStart state.verbose rest
      let state ← state.begin? start
      readParts fuel state rest
    | ')' :: rest => do
      let state ← state.leave?
      readParts fuel state rest
    | '|' :: rest => do
      let state ← state.nextBranch?
      readParts fuel state rest
    | '[' :: rest => do
      let (piece, rest) ← readBracket state.verbose rest
      readParts fuel (state.push piece) rest
    | '?' :: rest => do
      let (greedy, rest) := readGreed rest
      let state ← state.repeat? 0 (some 1) greedy
      readParts fuel state rest
    | '*' :: rest => do
      let (greedy, rest) := readGreed rest
      let state ← state.repeat? 0 none greedy
      readParts fuel state rest
    | '+' :: rest => do
      let (greedy, rest) := readGreed rest
      let state ← state.repeat? 1 none greedy
      readParts fuel state rest
    | '\x7b' :: rest => do
      let ((low, high), rest) ← readCounts state.verbose rest
      let (greedy, rest) := readGreed (skip state.verbose rest)
      let state ← state.repeat? low high greedy
      readParts fuel state rest
    | text => do
      let (atom, rest) ← readAtom state.verbose text
      readParts fuel (state.push ⟨.atom atom, 0⟩) rest

/-- The tree of a pattern, if it is well formed and not too deep. -/
def read? (pattern : String) : Option Written :=
  let text := pattern.toList
  readParts (text.length + 1) ⟨[], .start, false, []⟩ text

end RuleTree.Pattern.Reader
