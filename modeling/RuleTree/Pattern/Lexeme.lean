import RuleTree.Text.Numeral
import RuleTree.Unicode.Property
import RuleTree.Pattern.Written

/-!
# The small forms of patterns

Escapes, counts, flags, group names and the names of classes. Each reader takes
the characters from its own beginning and gives what it read with the characters
that follow, or nothing if the form is malformed. What is wrong with a pattern
is never reported, so a malformed form needs no description.

In verbose mode blanks and comments may stand between the characters of most
forms; each reader says so by skipping them where they may stand.
-/

namespace RuleTree.Pattern

/-- The runs of characters that count as blank. -/
def blankRuns : List Run := Property.whiteSpace.runs

/-- Whether a character is blank. -/
def isBlank (c : Char) : Bool := (CodePoints.mk blankRuns).contains c.toNat

/-- Skip blanks and comments. A comment runs from a number sign to the end of
its line. -/
def skipComments (inComment : Bool) : List Char → List Char
  | [] => []
  | c :: rest =>
    if inComment then skipComments (c != '\n') rest
    else if isBlank c then skipComments false rest
    else if c == '#' then skipComments true rest
    else c :: rest

/-- Skip blanks and comments in verbose mode, and nothing otherwise. -/
def skip (verbose : Bool) (text : List Char) : List Char :=
  if verbose then skipComments false text else text

/-- Skip blanks whatever the mode. -/
def skipBlanks (text : List Char) : List Char := text.dropWhile isBlank

/-- Read digits with blanks and comments between them. The fuel bounds their
number. -/
def readDigits (verbose : Bool) : Nat → List Char → List Char × List Char
  | 0, text => ([], text)
  | fuel + 1, c :: rest =>
    if c.isDigit then
      let (digits, rest) := readDigits verbose fuel (skip verbose rest)
      (c :: digits, rest)
    else
      ([], c :: rest)
  | _ + 1, [] => ([], [])

/-- Skip blanks, and after each of them blanks and comments in verbose mode. -/
def skipMoreBlanks (verbose : Bool) : Nat → List Char → List Char
  | 0, text => text
  | fuel + 1, c :: rest =>
    if isBlank c then skipMoreBlanks verbose fuel (skip verbose rest) else c :: rest
  | _ + 1, [] => []

/-- Read a count below `2 ^ 32`, with blanks around it in every mode. -/
def readCount (verbose : Bool) (text : List Char) : Option Nat × List Char :=
  let start := skipBlanks text
  let (digits, rest) := readDigits verbose start.length start
  let count := (Numeral.natural? digits).filter (· < Nat.pow 2 32)
  (count, skipMoreBlanks verbose rest.length rest)

/-- Read the counts of a repetition after its opening brace, to the closing one.
The low count may not be missing, and the high one may not be below it. -/
def readCounts (verbose : Bool) (text : List Char) : Option ((Nat × Option Nat) × List Char) := do
  let (low, rest) := readCount verbose (skip verbose text)
  let low ← low
  match rest with
  | '\x7d' :: rest => some ((low, some low), rest)
  | ',' :: rest =>
    match skip verbose rest with
    | '\x7d' :: rest => some ((low, none), rest)
    | rest =>
      let (high, rest) := readCount verbose rest
      let high ← high
      match rest with
      | '\x7d' :: rest => if low ≤ high then some ((low, some high), rest) else none
      | _ => none
  | _ => none

/-- Read exactly so many hexadecimal digits. -/
def readFixedHex (verbose : Bool) : Nat → List Char → Option (List Nat × List Char)
  | 0, rest => some ([], rest)
  | _ + 1, [] => none
  | count + 1, c :: rest => do
    let digit ← Numeral.hexDigit? c
    let (digits, rest) ← readFixedHex verbose count (skip verbose rest)
    some (digit :: digits, rest)

/-- Read hexadecimal digits up to a closing brace. The fuel bounds their number. -/
def readBracedHex (verbose : Bool) : Nat → List Char → Option (List Nat × List Char)
  | 0, _ => none
  | _ + 1, [] => none
  | _ + 1, '\x7d' :: rest => some ([], skip verbose rest)
  | fuel + 1, c :: rest => do
    let digit ← Numeral.hexDigit? c
    let (digits, rest) ← readBracedHex verbose fuel (skip verbose rest)
    some (digit :: digits, rest)

/-- The character of that number, unless it is a surrogate or too great. -/
def charOf? (number : Nat) : Option Char :=
  if valid : number.isValidChar then some (Char.ofNatAux number valid) else none

/-- The number of hexadecimal digits after the letter of an escape. -/
def hexLength (letter : Char) : Nat :=
  if letter == 'x' then 2 else if letter == 'u' then 4 else 8

/-- Read a character given by number, after the letter of its escape. -/
def readHex (verbose : Bool) (letter : Char) (text : List Char) : Option (Atom × List Char) := do
  let start := skip verbose text
  let (digits, isByte, rest) ← match start with
    | '\x7b' :: rest => do
      let rest := skip verbose rest
      let (digits, rest) ← readBracedHex verbose (rest.length + 1) rest
      if digits.isEmpty then none else some (digits, false, rest)
    | rest => do
      let (digits, rest) ← readFixedHex verbose (hexLength letter) rest
      some (digits, letter == 'x', rest)
  let char ← charOf? (digits.foldl (fun number digit => number * 16 + digit) 0)
  some (.literal ⟨char, isByte⟩, rest)

/-- Read the characters of a name up to a closing brace. -/
def readBracedName (verbose : Bool) : Nat → List Char → Option (List Char × List Char)
  | 0, _ => none
  | _ + 1, [] => none
  | _ + 1, '\x7d' :: rest => some ([], rest)
  | fuel + 1, c :: rest => do
    let (name, rest) ← readBracedName verbose fuel (skip verbose rest)
    some (c :: name, rest)

/-- Cut a text at the first place where `mark` stands, and drop the mark. -/
def cutAt? (mark : List Char) : List Char → Option (List Char × List Char)
  | [] => none
  | c :: rest =>
    if mark.isPrefixOf (c :: rest) then some ([], (c :: rest).drop mark.length)
    else (cutAt? mark rest).map fun (before, after) => (c :: before, after)

/-- The set that a name in braces asks for. A property is separated from its
value by `!=`, a colon or an equals sign, looked for in this order; all three
ask for the same set. -/
def setName (name : List Char) : SetName :=
  match cutAt? ['!', '='] name |>.or (cutAt? [':'] name) |>.or (cutAt? ['='] name) with
  | some (property, value) => .value (String.ofList property) (String.ofList value)
  | none => .of (String.ofList name)

/-- Read the name of a set, after the letter of its escape. -/
def readSetName (verbose negated : Bool) (text : List Char) : Option (Atom × List Char) :=
  match skip verbose text with
  | [] => none
  | '\x7b' :: rest => do
    let rest := skip verbose rest
    let (name, rest) ← readBracedName verbose (rest.length + 1) rest
    some (.named negated (setName name), rest)
  | '\\' :: _ => none
  | c :: rest => some (.named negated (.of (String.singleton c)), skip verbose rest)

/-- Whether a character can stand in the name of a special boundary. -/
def isBoundaryChar (c : Char) : Bool := c.isAlpha || c == '-'

/-- Read the characters that can stand in the name of a special boundary. -/
def readBoundaryName (verbose : Bool) : Nat → List Char → List Char × List Char
  | 0, text => ([], text)
  | fuel + 1, c :: rest =>
    if isBoundaryChar c then
      let (name, rest) := readBoundaryName verbose fuel (skip verbose rest)
      (c :: name, rest)
    else
      ([], c :: rest)
  | _ + 1, [] => ([], [])

/-- The special boundary of that name. -/
def specialBoundary? (name : String) : Option Anchor :=
  match name with
  | "start" => some .wordStart
  | "end" => some .wordEnd
  | "start-half" => some .wordStartHalf
  | "end-half" => some .wordEndHalf
  | _ => none

/-- Read what follows the escape of a word boundary. A brace before a letter or
a hyphen names a special boundary; any other brace is left for a count. -/
def readBoundary (verbose : Bool) (text : List Char) : Option (Atom × List Char) :=
  match text with
  | '\x7b' :: inner =>
    match skip verbose inner with
    | [] => none
    | c :: rest =>
      if isBoundaryChar c then
        match readBoundaryName verbose (c :: rest).length (c :: rest) with
        | (name, '\x7d' :: rest) =>
          (specialBoundary? (String.ofList name)).map fun anchor => (.anchor anchor, rest)
        | _ => none
      else
        some (.anchor .wordBoundary, text)
  | _ => some (.anchor .wordBoundary, text)

/-- Whether a character without a meaning of its own may be escaped: ASCII, and
neither a letter, a digit nor an angle bracket. -/
def isEscapable (c : Char) : Bool :=
  c.toNat < 0x80 && !c.isAlphanum && c != '<' && c != '>'

/-- Read an escape, after its backslash. -/
def readEscape (verbose : Bool) : List Char → Option (Atom × List Char)
  | [] => none
  | c :: rest =>
    match c with
    | 'x' | 'u' | 'U' => readHex verbose c rest
    | 'p' => readSetName verbose false rest
    | 'P' => readSetName verbose true rest
    | 'd' => some (.letterClass false .digit, rest)
    | 'D' => some (.letterClass true .digit, rest)
    | 's' => some (.letterClass false .space, rest)
    | 'S' => some (.letterClass true .space, rest)
    | 'w' => some (.letterClass false .word, rest)
    | 'W' => some (.letterClass true .word, rest)
    | 'a' => some (.literal ⟨'\x07', false⟩, rest)
    | 'f' => some (.literal ⟨'\x0c', false⟩, rest)
    | 't' => some (.literal ⟨'\t', false⟩, rest)
    | 'n' => some (.literal ⟨'\n', false⟩, rest)
    | 'r' => some (.literal ⟨'\r', false⟩, rest)
    | 'v' => some (.literal ⟨'\x0b', false⟩, rest)
    | 'A' => some (.anchor .textStart, rest)
    | 'z' => some (.anchor .textEnd, rest)
    | 'b' => readBoundary verbose rest
    | 'B' => some (.anchor .notWordBoundary, rest)
    | '<' => some (.anchor .wordStart, rest)
    | '>' => some (.anchor .wordEnd, rest)
    | c => if isEscapable c then some (.literal ⟨c, false⟩, rest) else none

/-- Read one part that is neither a group, a bracket nor a repetition. -/
def readAtom (verbose : Bool) : List Char → Option (Atom × List Char)
  | [] => none
  | '\\' :: rest => readEscape verbose rest
  | '.' :: rest => some (.dot, rest)
  | '^' :: rest => some (.anchor .lineStart, rest)
  | '$' :: rest => some (.anchor .lineEnd, rest)
  | c :: rest => some (.literal ⟨c, false⟩, rest)

/-- The mode of a letter. -/
def flag? (letter : Char) : Option Flag :=
  match letter with
  | 'i' => some .ignoreCase
  | 'm' => some .manyLines
  | 's' => some .dotAll
  | 'U' => some .swapGreed
  | 'u' => some .unicode
  | 'R' => some .carriageReturns
  | 'x' => some .verbose
  | _ => none

/-- Read flags up to a colon or a closing parenthesis, which is left. No flag may
occur twice, at most one minus sign may occur, and it may not be the last. The
second component says whether anything was written. -/
def readFlags (negated : Bool) (seen : List Flag) (last : Option Char) :
    List Char → Option ((FlagChange × Bool) × List Char)
  | [] => none
  | c :: rest =>
    if c == ':' || c == ')' then
      if last = some '-' then none else some (([], last.isSome), c :: rest)
    else if c == '-' then
      if negated then none else readFlags true seen (some c) rest
    else do
      let flag ← flag? c
      if seen.contains flag then none
      else do
        let ((change, _), rest) ← readFlags negated (flag :: seen) (some c) rest
        some (((flag, !negated) :: change, true), rest)

/-- The characters that are numbers. -/
def numberChars : CodePoints := Category.membersOf Category.numbers

/-- Whether a character may stand in the name of a group. -/
def isNameChar (isFirst : Bool) (c : Char) : Bool :=
  c == '_' || Property.alphabetic.contains c.toNat ||
    (!isFirst && (c == '.' || c == '[' || c == ']' || numberChars.contains c.toNat))

/-- Read the rest of the name of a group, to its closing angle bracket. -/
def readNameRest : List Char → Option (List Char × List Char)
  | [] => none
  | '>' :: rest => some ([], rest)
  | c :: rest =>
    if isNameChar false c then (readNameRest rest).map fun (name, rest) => (c :: name, rest)
    else none

/-- Read the name of a group, after its opening angle bracket. -/
def readGroupName : List Char → Option (String × List Char)
  | [] => none
  | c :: rest =>
    if isNameChar true c then
      (readNameRest rest).map fun (name, rest) => (String.ofList (c :: name), rest)
    else none

/-- The beginning of a group: a plain one, one with a name, one that only changes
flags for its inside, or a change of flags with no inside at all. -/
inductive GroupStart
  | plain
  | named (name : String)
  | flagged (change : FlagChange)
  | change (change : FlagChange)

/-- Read the beginning of a group, after its parenthesis. Looking ahead or behind
is refused. -/
def readGroupStart (verbose : Bool) (text : List Char) : Option (GroupStart × List Char) :=
  match skip verbose text with
  | '?' :: '=' :: _ | '?' :: '!' :: _ | '?' :: '<' :: '=' :: _ | '?' :: '<' :: '!' :: _ => none
  | '?' :: 'P' :: '<' :: rest | '?' :: '<' :: rest =>
    (readGroupName rest).map fun (name, rest) => (.named name, rest)
  | '?' :: rest => do
    let ((change, isWritten), rest) ← readFlags false [] none rest
    match rest with
    | ':' :: rest => some (.flagged change, rest)
    | ')' :: rest => if isWritten then some (.change change, rest) else none
    | _ => none
  | rest => some (.plain, rest)

/-- Read the name of a class of ASCII characters, after `[:`. -/
def readAsciiClass (text : List Char) : Option (SetItem × List Char) := do
  let (negated, rest) := match text with
    | '^' :: rest => (true, rest)
    | rest => (false, rest)
  let name := rest.takeWhile (· != ':')
  match rest.dropWhile (· != ':') with
  | ':' :: ']' :: rest =>
    (AsciiClass.named.lookup (String.ofList name)).map fun kind => (.asciiClass negated kind, rest)
  | _ => none

end RuleTree.Pattern
