import RuleTree.Unicode.CodePoints

/-!
# Regular expressions over characters

What a pattern means once its flags have taken effect: literals, sets of
characters, positions, and the three ways of building from them.

The size of a pattern is measured on the expression, so the builders below keep
expressions in one shape. Parts without effect are dropped, so that counting a
part that matches only the empty text never costs more than once. Sequences do not
stand in sequences nor choices in choices; neighbouring literals are one literal,
and sets between which there is a choice are one set. Parts with which all
branches begin stand before the choice: `a*b|a*c` becomes `a*(?:b|c)`, which is
`a*[bc]`.
-/

namespace RuleTree.Pattern

/-- A condition on a position in the text. Word conditions come in two kinds, by
the set that says which characters make words. -/
inductive Look
  | textStart
  | textEnd
  | lineStart
  | lineEnd
  | returnLineStart
  | returnLineEnd
  | wordBoundary (unicode : Bool)
  | notWordBoundary (unicode : Bool)
  | wordStart (unicode : Bool)
  | wordEnd (unicode : Bool)
  | wordStartHalf (unicode : Bool)
  | wordEndHalf (unicode : Bool)
  deriving DecidableEq, Repr

/-- A regular expression. A literal has at least one character. A set has none or
several, and is of bytes where it was not read as Unicode. A repetition without a
high end is unbounded; greed bears on which match is found first, which cannot be
observed, and on whether two expressions are alike. A group only remembers where
it matched. A sequence has at least two parts, and a choice two branches. -/
inductive Regular
  | empty
  | literal (text : List Char)
  | chars (unicode : Bool) (set : CodePoints)
  | look (look : Look)
  | repetition (low : Nat) (high : Option Nat) (greedy : Bool) (body : Regular)
  | group (body : Regular)
  | concat (parts : List Regular)
  | choice (branches : List Regular)
  deriving Repr

namespace Regular

/-! ## What is known of the matches -/

mutual
/-- Whether every match is empty, and there can be one. -/
def isZeroWidth : Regular → Bool
  | .empty => true
  | .literal _ => false
  | .chars _ _ => false
  | .look _ => true
  | .repetition _ high _ body => high == some 0 || (high.isSome && isZeroWidth body)
  | .group body => isZeroWidth body
  | .concat parts => allZeroWidth parts
  | .choice branches => allZeroWidth branches

/-- Whether each of the expressions has only empty matches. -/
def allZeroWidth : List Regular → Bool
  | [] => true
  | part :: rest => isZeroWidth part && allZeroWidth rest
end

mutual
/-- The fewest characters a match can take, as far as the sets of characters tell.
There is no such number if one of the sets that count is empty. -/
def shortest? : Regular → Option Nat
  | .empty => some 0
  | .literal text => some text.length
  | .chars _ set => if set.isEmpty then none else some 1
  | .look _ => some 0
  | .repetition low _ _ body => (shortest? body).map (low * ·)
  | .group body => shortest? body
  | .concat parts => shortestSequence? parts
  | .choice branches => shortestChoice? branches

/-- The fewest characters that matches of all the expressions take together. -/
def shortestSequence? : List Regular → Option Nat
  | [] => some 0
  | part :: rest => do
    let length ← shortest? part
    let others ← shortestSequence? rest
    some (length + others)

/-- The fewest characters that a match of one of the expressions can take. -/
def shortestChoice? : List Regular → Option Nat
  | [] => none
  | [branch] => shortest? branch
  | branch :: rest => do
    let length ← shortest? branch
    let others ← shortestChoice? rest
    some (min length others)
end

/-- Whether every match takes at least one character. -/
def takesSome (regular : Regular) : Bool := regular.shortest?.any (0 < ·)

mutual
/-- Whether every match is at the beginning of the text, or backwards at its end,
as far as the parts tell that come first. -/
def isAnchored (backwards : Bool) : Regular → Bool
  | .empty => false
  | .literal _ => false
  | .chars _ _ => false
  | .look position => position == if backwards then .textEnd else .textStart
  | .repetition low _ _ body => low != 0 && isAnchored backwards body
  | .group body => isAnchored backwards body
  | .concat parts => isSequenceAnchored backwards parts
  | .choice branches => areAnchored backwards branches

/-- Whether one of the expressions is anchored before any of them can take a
character. -/
def isSequenceAnchored (backwards : Bool) : List Regular → Bool
  | [] => false
  | part :: rest =>
    if backwards then
      isSequenceAnchored backwards rest || (allZeroWidth rest && isAnchored backwards part)
    else
      isAnchored backwards part || (isZeroWidth part && isSequenceAnchored backwards rest)

/-- Whether each of the expressions is anchored. -/
def areAnchored (backwards : Bool) : List Regular → Bool
  | [] => true
  | branch :: rest => isAnchored backwards branch && areAnchored backwards rest
end

/-! ## Likeness -/

mutual
/-- Whether two expressions are built alike. Groups are numbered, so no group is
like another one. -/
def isLike : Regular → Regular → Bool
  | .empty, .empty => true
  | .literal text, .literal text' => text == text'
  | .chars unicode set, .chars unicode' set' => unicode == unicode' && set == set'
  | .look position, .look position' => position == position'
  | .repetition low high greedy body, .repetition low' high' greedy' body' =>
    low == low' && high == high' && greedy == greedy' && isLike body body'
  | .concat parts, .concat parts' => areLike parts parts'
  | .choice branches, .choice branches' => areLike branches branches'
  | _, _ => false

/-- Whether two lists are of the same length and alike throughout. -/
def areLike : List Regular → List Regular → Bool
  | [], [] => true
  | part :: rest, part' :: rest' => isLike part part' && areLike rest rest'
  | _, _ => false
end

/-- The expressions with which both lists begin. -/
def commonParts : List Regular → List Regular → List Regular
  | part :: rest, part' :: rest' =>
    if isLike part part' then part :: commonParts rest rest' else []
  | _, _ => []

/-- The parts with which all branches begin, if all are sequences. -/
def commonBeginning : List Regular → List Regular
  | [.concat parts] => parts
  | .concat parts :: rest => commonParts parts (commonBeginning rest)
  | _ => []

/-! ## Building -/

/-- The expression of a set. A single character is a literal. An empty set is the
same however it was read. -/
def ofSet (unicode : Bool) (set : CodePoints) : Regular :=
  let set := set.scalars
  match set.only? with
  | some point => .literal [Char.ofNat point]
  | none => .chars (unicode || set.isEmpty) set

/-- A repetition. What matches only the empty text is repeated at most once, and
what is repeated no times or exactly once is not repeated at all. -/
def repeated (low : Nat) (high : Option Nat) (greedy : Bool) (body : Regular) : Regular :=
  let (low, high) :=
    if isZeroWidth body then (min low 1, some (min (high.getD 1) 1)) else (low, high)
  match low, high with
  | 0, some 0 => .empty
  | 1, some 1 => body
  | low, high => .repetition low high greedy body

/-- What an expression adds to a sequence. -/
def parts : Regular → List Regular
  | .empty => []
  | .concat parts => parts
  | part => [part]

/-- Put a part before others. A literal before a literal is one with it. -/
def joinTo (part : Regular) (rest : List Regular) : List Regular :=
  match part, rest with
  | .literal text, .literal text' :: rest => .literal (text ++ text') :: rest
  | part, rest => part :: rest

/-- The expressions one after another. -/
def sequence (regulars : List Regular) : Regular :=
  match (regulars.flatMap parts).foldr joinTo [] with
  | [] => .empty
  | [part] => part
  | parts => .concat parts

/-- What an expression adds to a choice. -/
def branches : Regular → List Regular
  | .choice branches => branches
  | branch => [branch]

/-- The characters, if each of the branches is a literal of one character. -/
def characters? (branches : List Regular) : Option (List Char) :=
  branches.mapM fun
    | .literal [c] => some c
    | _ => none

/-- The sets, if each of the branches is a set. -/
def sets? (branches : List Regular) : Option (List CodePoints) :=
  branches.mapM fun
    | .chars _ set => some set
    | _ => none

/-- Any of the expressions. A choice between characters is a set, and so is a
choice between sets; a choice between both is not. -/
def unite (regulars : List Regular) : Regular :=
  match regulars.flatMap branches with
  | [branch] => branch
  | branches =>
    match characters? branches, sets? branches with
    | some characters, _ => ofSet true (.ofChars characters)
    | none, some sets => ofSet true (.unions sets)
    | none, none => .choice branches

/-- Any of the expressions, with the parts in front with which all branches begin.
What is left of the branches has no common beginning any more, as all of it has
been taken and a choice among what is left has given up its own before. -/
def oneOf (regulars : List Regular) : Regular :=
  match unite regulars with
  | .choice branches =>
    match commonBeginning branches with
    | [] => .choice branches
    | common =>
      let ends := branches.map fun branch => sequence (branch.parts.drop common.length)
      sequence (common ++ [unite ends])
  | united => united

end Regular

end RuleTree.Pattern
