import RuleTree.Text.Numeral
import RuleTree.Unicode.Property

/-!
# Quoted text in messages

Text taken from outside appears in messages between double quotes. Quotes,
backslashes and the common controls get a short escape; characters that would
not show, or would attach to their neighbour, are given by number. Everything
else stands as it is, an apostrophe included.
-/

namespace RuleTree.Quoted

/-- The runs of all characters that stand for themselves between quotes, those
with a short escape apart. -/
def plainRuns : Array Run :=
  (CodePoints.diff Property.printable
    (.union Property.graphemeExtend Property.defaultIgnorable)).runs.toArray

/-- Whether a character that has no short escape stands for itself. -/
def isPlain (c : Char) : Bool :=
  if c.toNat < 0x7F then 0x20 ≤ c.toNat else runsContain plainRuns c.toNat 0 plainRuns.size

/-- How a character is written between quotes. -/
def escape (c : Char) : List Char :=
  match c with
  | '"' => ['\\', '"']
  | '\\' => ['\\', '\\']
  | '\n' => ['\\', 'n']
  | '\r' => ['\\', 'r']
  | '\t' => ['\\', 't']
  | '\x00' => ['\\', '0']
  | c =>
    if isPlain c then [c]
    else ['\\', 'u', '\x7b'] ++ Nat.toDigits 16 c.toNat ++ ['\x7d']

/-- The text between quotes. -/
def quoted (text : String) : String :=
  String.ofList ('"' :: text.toList.flatMap escape ++ ['"'])

end RuleTree.Quoted
