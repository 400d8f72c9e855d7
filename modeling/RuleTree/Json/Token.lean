import RuleTree.Json.Basic

/-!
# The tokens of JSON text

A text is cut into tokens before anything is made of them. The cut itself never
fails: what is wrong is kept in a token and reported when that token is reached,
so that of several faults the first in the text is the one that counts. A
reader that looks for a comma and finds a broken token need not care how it is
broken; one that looks for a value does.

A string that is only passed over is held to less than one whose text is wanted:
halves of surrogate pairs do not matter in it. A number that is only passed over
may be as great as it likes. A token keeps both verdicts.
-/

namespace RuleTree

/-- Why a text is no JSON: it ends too early, or something in it is wrong. -/
inductive TextFault
  | ended
  | malformed
  deriving DecidableEq, Repr

namespace Json

/-- The digits of a number: its sign, what stands before the point, after it, and
the exponent. -/
structure Digits where
  negative : Bool
  whole : List Char
  fraction : Option (List Char)
  exponent : Option (Bool × List Char)
  deriving DecidableEq, Repr

/-- A token. What is broken at the end of the text differs from what is broken
before it. -/
inductive Token
  | openArray
  | closeArray
  | openObject
  | closeObject
  | comma
  | colon
  | word (value : Json)
  | number (digits : Digits)
  | string (text : Except TextFault String) (passed : Except TextFault Unit)
  | brokenWord (fault : TextFault)
  | brokenNumber (fault : TextFault)
  | stray

/-! ## Numbers -/

/-- The fault of a text that has the given characters where a digit has to be. -/
def missingDigit : List Char → TextFault
  | [] => .ended
  | _ => .malformed

/-- Read the exponent of a number, after its letter. -/
def readExponent (text : List Char) : Except TextFault ((Bool × List Char) × List Char) :=
  let (negative, rest) := match text with
    | '+' :: rest => (false, rest)
    | '-' :: rest => (true, rest)
    | rest => (false, rest)
  let digits := rest.takeWhile Char.isDigit
  let rest := rest.dropWhile Char.isDigit
  if digits.isEmpty then .error (missingDigit rest) else .ok ((negative, digits), rest)

/-- Read what may follow the fraction of a number. -/
def readExponent? (text : List Char) :
    Except TextFault (Option (Bool × List Char) × List Char) :=
  match text with
  | 'e' :: rest | 'E' :: rest => do
    let (exponent, rest) ← readExponent rest
    .ok (some exponent, rest)
  | rest => .ok (none, rest)

/-- Read a number after its sign. A zero first is the only digit before the point. -/
def readNumber (negative : Bool) (text : List Char) : Except TextFault (Digits × List Char) := do
  let (whole, rest) ← match text with
    | '0' :: rest =>
      match rest with
      | c :: _ => if c.isDigit then .error .malformed else .ok (['0'], rest)
      | [] => .ok (['0'], rest)
    | rest =>
      let digits := rest.takeWhile Char.isDigit
      if digits.isEmpty then .error (missingDigit rest)
      else .ok (digits, rest.dropWhile Char.isDigit)
  match rest with
  | '.' :: rest =>
    let digits := rest.takeWhile Char.isDigit
    let rest := rest.dropWhile Char.isDigit
    if digits.isEmpty then .error (missingDigit rest)
    else do
      let (exponent, rest) ← readExponent? rest
      .ok (⟨negative, whole, some digits, exponent⟩, rest)
  | rest => do
    let (exponent, rest) ← readExponent? rest
    .ok (⟨negative, whole, none, exponent⟩, rest)

/-- Append digits to a number as long as a 64-bit word holds it; with the number
go how many digits fitted and how many were left over. -/
def accumulate (number fitted : Nat) : List Char → Nat × Nat × Nat
  | [] => (number, fitted, 0)
  | digit :: rest =>
    let longer := number * 10 + (digit.toNat - '0'.toNat)
    if longer < Nat.pow 2 64 then accumulate longer (fitted + 1) rest
    else (number, fitted, (digit :: rest).length)

/-- The number of its digits. An integer that a word can hold stays one. A
negative one needs a sign bit, and minus zero is no integer. Otherwise up to
64 bits of digits count, further digits before the point only by their number,
and the result is a double, unless it is too great for one. -/
def Digits.number? (digits : Digits) : Option JsonNumber :=
  let (leading, _, dropped) := accumulate 0 0 digits.whole
  if dropped = 0 ∧ digits.fraction.isNone ∧ digits.exponent.isNone then
    if !digits.negative then some (.integer leading)
    else if 0 < leading ∧ leading ≤ Nat.pow 2 63 then some (.integer (-(leading : Int)))
    else (Double.ofDecimal? true leading 0).map .double
  else
    let (all, places, _) := accumulate leading 0 (digits.fraction.getD [])
    let written := match digits.exponent with
      | none => 0
      | some (negative, power) =>
        let power : Int := Nat.ofDigitChars 10 power 0
        if negative then -power else power
    (Double.ofDecimal? digits.negative all (written + dropped - places)).map .double

/-! ## Strings -/

/-- The value of four hexadecimal digits. -/
def hexUnit? (a b c d : Char) : Option Nat := do
  let a ← Numeral.hexDigit? a
  let b ← Numeral.hexDigit? b
  let c ← Numeral.hexDigit? c
  let d ← Numeral.hexDigit? d
  some (((a * 16 + b) * 16 + c) * 16 + d)

/-- The number of bytes of a text in UTF-8, or four if there are more. -/
def bytesUpToFour : List Char → Nat
  | [] => 0
  | c :: rest => min 4 (c.utf8Size + bytesUpToFour (rest.take 3))
termination_by text => text.length
decreasing_by
  simp only [List.length_take, List.length_cons]
  omega

/-- Read four hexadecimal digits. A text of fewer than four bytes ends too early,
whatever they are. -/
def readUnit (text : List Char) : Except TextFault (Nat × List Char) :=
  match text with
  | a :: b :: c :: d :: rest =>
    match hexUnit? a b c d with
    | some unit => .ok (unit, rest)
    | none => .error .malformed
  | short => .error (if bytesUpToFour short < 4 then .ended else .malformed)

/-- Whether a unit is the first half of a surrogate pair. -/
def isLeading (unit : Nat) : Bool := 0xD800 ≤ unit && unit ≤ 0xDBFF

/-- Whether a unit is the second half of a surrogate pair. -/
def isTrailing (unit : Nat) : Bool := 0xDC00 ≤ unit && unit ≤ 0xDFFF

/-- Read the second half of a surrogate pair with its escape. -/
def readTrailing (leading : Nat) : List Char → Except TextFault (Char × List Char)
  | [] => .error .ended
  | '\\' :: [] => .error .ended
  | '\\' :: 'u' :: rest => do
    let (trailing, rest) ← readUnit rest
    if isTrailing trailing then
      .ok (Char.ofNat (0x10000 + (leading - 0xD800) * 0x400 + (trailing - 0xDC00)), rest)
    else .error .malformed
  | _ => .error .malformed

/-- The character of an escape of one letter. -/
def letterEscape? (c : Char) : Option Char :=
  match c with
  | '"' => some '"'
  | '\\' => some '\\'
  | '/' => some '/'
  | 'b' => some '\x08'
  | 'f' => some '\x0c'
  | 'n' => some '\n'
  | 'r' => some '\r'
  | 't' => some '\t'
  | _ => none

/-- Read an escape, after its backslash. -/
def readEscape : List Char → Except TextFault (Char × List Char)
  | [] => .error .ended
  | 'u' :: rest => do
    let (unit, rest) ← readUnit rest
    if isTrailing unit then .error .malformed
    else if isLeading unit then readTrailing unit rest
    else .ok (Char.ofNat unit, rest)
  | c :: rest =>
    match letterEscape? c with
    | some char => .ok (char, rest)
    | none => .error .malformed

/-- Read a string whose text is wanted, after its quote. What has been read is in
reverse order. The fuel bounds the number of characters. -/
def readText (done : List Char) : Nat → List Char → Except TextFault (String × List Char)
  | 0, _ => .error .ended
  | _ + 1, [] => .error .ended
  | _ + 1, '"' :: rest => .ok (String.ofList done.reverse, rest)
  | fuel + 1, '\\' :: rest => do
    let (c, rest) ← readEscape rest
    readText (c :: done) fuel rest
  | fuel + 1, c :: rest =>
    if c.toNat < 0x20 then .error .malformed else readText (c :: done) fuel rest

/-- Pass over an escape, after its backslash. -/
def passEscape : List Char → Except TextFault (List Char)
  | [] => .error .ended
  | 'u' :: rest => (readUnit rest).map (·.2)
  | c :: rest => if (letterEscape? c).isSome then .ok rest else .error .malformed

/-- Pass over a string, after its quote. The fuel bounds the number of
characters. -/
def passText : Nat → List Char → Except TextFault (List Char)
  | 0, _ => .error .ended
  | _ + 1, [] => .error .ended
  | _ + 1, '"' :: rest => .ok rest
  | fuel + 1, '\\' :: rest => do
    let rest ← passEscape rest
    passText fuel rest
  | fuel + 1, c :: rest => if c.toNat < 0x20 then .error .malformed else passText fuel rest

/-! ## Words and the whole text -/

/-- Read the rest of a word after its first letter. -/
def readWord : (letters : List Char) → List Char → Except TextFault (List Char)
  | [], rest => .ok rest
  | _ :: _, [] => .error .ended
  | letter :: letters, c :: rest =>
    if c == letter then readWord letters rest else .error .malformed

/-- The value of a word and its letters after the first, by the first. -/
def word? (first : Char) : Option (Json × List Char) :=
  match first with
  | 'n' => some (.null, ['u', 'l', 'l'])
  | 't' => some (.bool true, ['r', 'u', 'e'])
  | 'f' => some (.bool false, ['a', 'l', 's', 'e'])
  | _ => none

/-- The token of a character that is one by itself. -/
def sign? (c : Char) : Option Token :=
  match c with
  | '[' => some .openArray
  | ']' => some .closeArray
  | '\x7b' => some .openObject
  | '\x7d' => some .closeObject
  | ',' => some .comma
  | ':' => some .colon
  | _ => none

/-- Whether a character may stand between tokens. -/
def isBlank (c : Char) : Bool := c == ' ' || c == '\n' || c == '\t' || c == '\r'

/-- The tokens of a text up to its end or to the first that is broken beyond
passing over. What has been found is in reverse order. The fuel bounds the
number of characters. -/
def tokensFrom (found : List Token) : Nat → List Char → List Token
  | 0, _ => found.reverse
  | _ + 1, [] => found.reverse
  | fuel + 1, c :: rest =>
    if isBlank c then tokensFrom found fuel rest
    else
      match sign? c, word? c with
      | some sign, _ => tokensFrom (sign :: found) fuel rest
      | none, some (value, letters) =>
        match readWord letters rest with
        | .ok rest => tokensFrom (.word value :: found) fuel rest
        | .error fault => (.brokenWord fault :: found).reverse
      | none, none =>
        if c == '"' then
          let text := (readText [] fuel rest).map (·.1)
          match passText fuel rest with
          | .ok rest => tokensFrom (.string text (.ok ()) :: found) fuel rest
          | .error fault => (.string text (.error fault) :: found).reverse
        else if c == '-' || c.isDigit then
          match readNumber (c == '-') (if c == '-' then rest else c :: rest) with
          | .ok (digits, rest) => tokensFrom (.number digits :: found) fuel rest
          | .error fault => (.brokenNumber fault :: found).reverse
        else (.stray :: found).reverse

/-- The tokens of a text. -/
def tokens (text : String) : List Token :=
  let chars := text.toList
  tokensFrom [] (chars.length + 1) chars

end Json

end RuleTree
