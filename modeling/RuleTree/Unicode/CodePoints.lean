import RuleTree.Text.Numeral

/-!
# Sets of code points

A set is kept as a list of runs. Tables are written as text, one word per run,
so that a property of thousands of characters stays a few lines of hexadecimal.
Every operation returns its runs in ascending order, merged where they touch, so
two equal sets built here have equal runs and a printer or a cost can walk them.

Membership does not rely on that order. Surrogates are ordinary numbers for the
operations, so a complement has them; no character is one, and `scalars` leaves
them out where the runs of a set are counted.
-/

namespace RuleTree

/-- Consecutive code points, both ends included. -/
structure Run where
  low : Nat
  high : Nat
  deriving DecidableEq, Repr, Inhabited

/-- A set of code points, as ascending runs that neither overlap nor touch. -/
structure CodePoints where
  runs : List Run
  deriving DecidableEq, Repr, Inhabited

namespace CodePoints

/-- The greatest code point. -/
def top : Nat := 0x10FFFF

/-- Absorb into `current` every following run that overlaps or touches it. The
runs that follow have to be in ascending order of their low ends. -/
def mergeFrom (current : Run) : List Run → List Run
  | [] => [current]
  | next :: rest =>
    if next.low ≤ current.high + 1 then
      mergeFrom ⟨current.low, max current.high next.high⟩ rest
    else
      current :: mergeFrom next rest

/-- The set of all members of the given runs, which may overlap and stand in any
order. -/
def ofRuns (runs : List Run) : CodePoints :=
  match runs.mergeSort (fun first second => first.low ≤ second.low) with
  | [] => ⟨[]⟩
  | first :: rest => ⟨mergeFrom first rest⟩

/-- No code point. -/
def empty : CodePoints := ⟨[]⟩

/-- Every code point. -/
def full : CodePoints := ⟨[⟨0, top⟩]⟩

/-- The code points from `low` to `high`, both included. -/
def between (low high : Nat) : CodePoints := ⟨[⟨low, high⟩]⟩

/-- A single code point. -/
def single (point : Nat) : CodePoints := between point point

/-- A single character. -/
def ofChar (c : Char) : CodePoints := single c.toNat

/-- The characters of a list. -/
def ofChars (chars : List Char) : CodePoints :=
  ofRuns (chars.map fun c => ⟨c.toNat, c.toNat⟩)

/-- The first 128 code points. -/
def ascii : CodePoints := between 0 0x7F

/-- Membership of a code point. -/
def contains (set : CodePoints) (point : Nat) : Bool :=
  set.runs.any fun run => run.low ≤ point && point ≤ run.high

/-- Whether the set has no member. -/
def isEmpty (set : CodePoints) : Bool := set.runs.isEmpty

/-- Whether every member is below 128. -/
def isAscii (set : CodePoints) : Bool := set.runs.all fun run => run.high ≤ 0x7F

/-- The only member, when there is exactly one. -/
def only? (set : CodePoints) : Option Nat :=
  match set.runs with
  | [run] => if run.low = run.high then some run.low else none
  | _ => none

/-- The members that are not surrogates. -/
def scalars (set : CodePoints) : CodePoints :=
  ⟨set.runs.flatMap fun run =>
    (if run.low < 0xD800 then [⟨run.low, min run.high 0xD7FF⟩] else []) ++
    (if 0xDFFF < run.high then [⟨max run.low 0xE000, run.high⟩] else [])⟩

/-- Members of either set. -/
def union (left right : CodePoints) : CodePoints := ofRuns (left.runs ++ right.runs)

/-- Members of any of the sets. -/
def unions (sets : List CodePoints) : CodePoints := ofRuns (sets.flatMap (·.runs))

/-- The runs between the given ascending runs, from `start` to the top. -/
def gaps (start : Nat) : List Run → List Run
  | [] => if start ≤ top then [⟨start, top⟩] else []
  | run :: rest =>
    if start < run.low then ⟨start, run.low - 1⟩ :: gaps (run.high + 1) rest
    else gaps (run.high + 1) rest

/-- Code points outside the set. -/
def complement (set : CodePoints) : CodePoints := ⟨gaps 0 set.runs⟩

/-- Members of both sets. -/
def inter (left right : CodePoints) : CodePoints :=
  complement (union (complement left) (complement right))

/-- Members of the first set that are not in the second. -/
def diff (left right : CodePoints) : CodePoints := inter left (complement right)

/-- Members of exactly one of the sets. -/
def symmetricDiff (left right : CodePoints) : CodePoints :=
  diff (union left right) (inter left right)

/-- A run being read from a table: the first number if a dash has been passed,
and the number under the cursor. -/
structure Reading where
  low : Option Nat
  number : Nat

/-- Read the characters of one table line. A space ends a run, a dash separates
its ends, and anything else is a hexadecimal digit. -/
def readLine (reading : Reading) : List Char → List Run
  | [] => [⟨reading.low.getD reading.number, reading.number⟩]
  | ' ' :: rest => ⟨reading.low.getD reading.number, reading.number⟩ :: readLine ⟨none, 0⟩ rest
  | '-' :: rest => readLine ⟨some reading.number, 0⟩ rest
  | digit :: rest =>
    readLine ⟨reading.low, reading.number * 16 + (Numeral.hexDigit? digit).getD 0⟩ rest

/-- The set written as table lines such as `41-5A 61-7A AA`. -/
def ofTable (lines : List String) : CodePoints :=
  ofRuns (lines.flatMap fun line => readLine ⟨none, 0⟩ line.toList)

end CodePoints

/-- Membership of a code point in ascending runs, by halving the part of the
array between `low` and `high`. -/
def runsContain (runs : Array Run) (point low high : Nat) : Bool :=
  if inside : low < high ∧ high ≤ runs.size then
    let middle := (low + high) / 2
    have : middle < runs.size := by omega
    if point < runs[middle].low then runsContain runs point low middle
    else if runs[middle].high < point then runsContain runs point (middle + 1) high
    else true
  else
    false
termination_by high - low

end RuleTree
