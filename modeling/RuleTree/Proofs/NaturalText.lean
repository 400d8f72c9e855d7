import RuleTree.Value.Inference
import RuleTree.Proofs.PrintedTokens
import RuleTree.Proofs.TypedValue
import RuleTree.Proofs.ValueParts

/-!
# The natural strings of scalars

Scalars are matched and searched by their natural strings. The two truth values have two
names, integers are written in decimal, and the string of a text or a pattern is the text
itself. Reading the string under the type of the scalar gives the scalar back, so within one
type the string tells scalars apart. Across types it does not, for the integer 1 and the
text "1" have one string.

Reading undoes writing on the whole range of integers: whatever has been written in decimal,
with its sign, is read as the number it was written for, and what a word holds is within the
range that is read.
-/

namespace RuleTree

namespace Numeral

/-- The digits of a natural number are read back as the number. -/
theorem natural?_toDigits (n : Nat) : natural? (Nat.toDigits 10 n) = some n := by
  have digits : (Nat.toDigits 10 n).all Char.isDigit = true := by
    rw [List.all_eq_true]
    intro c member
    exact Nat.isDigit_of_mem_toDigits (by decide) (by decide) member
  rw [natural?, if_pos ⟨Nat.toDigits_ne_nil, digits⟩, Nat.ofDigitChars_ten_toDigits]

/-- What is read as a natural number begins with a digit. -/
theorem isDigit_of_natural? {first : Char} {rest : List Char} {n : Nat}
    (read : natural? (first :: rest) = some n) : first.isDigit = true := by
  unfold natural? at read
  split at read
  · rename_i digits
    exact List.all_eq_true.mp digits.2 first List.mem_cons_self
  · cases read

/-- Digits without a sign are read as a number that is not negative. -/
theorem integer?_of_natural? {digits : List Char} {n : Nat} (read : natural? digits = some n) :
    integer? digits = some n := by
  unfold integer?
  split
  · exact absurd (isDigit_of_natural? read) (by decide)
  · exact absurd (isDigit_of_natural? read) (by decide)
  · rw [read]
    rfl

/-- The numeral of an integer is read back as the integer. -/
theorem integer?_integer (n : Int) : integer? (integer n).toList = some n := by
  rw [Json.toList_integer]
  by_cases negative : n < 0
  · have magnitude : -(n.natAbs : Int) = n := by omega
    rw [if_pos negative, integer?, natural?_toDigits]
    exact congrArg some magnitude
  · have magnitude : (n.natAbs : Int) = n := by omega
    rw [if_neg negative, integer?_of_natural? (natural?_toDigits n.natAbs)]
    exact congrArg some magnitude

end Numeral

namespace Value

/-- What has a natural string is there. -/
theorem isNil_of_naturalString {value : Value} {text : String}
    (written : value.naturalString = .ok (some text)) : value.isNil = false := by
  cases value with
  | nil type => cases type <;> cases written
  | _ => rfl

/-- A scalar that is there has a natural string. -/
theorem naturalString_of_present {value : Value} (scalar : value.signature.isScalar = true)
    (present : value.isNil = false) : ∃ text, value.naturalString = .ok (some text) := by
  cases value with
  | nil type => cases present
  | boolean payload =>
    cases payload with
    | false => exact ⟨"false", rfl⟩
    | true => exact ⟨"true", rfl⟩
  | integer payload => exact ⟨_, rfl⟩
  | string payload => exact ⟨_, rfl⟩
  | regexp payload => exact ⟨_, rfl⟩
  | list unit items => cases scalar
  | map unit entries => cases scalar

/-- The natural string of a value is read back, under the type of the value, as the
value. The two truth values are among the names that are read, what is written in decimal is
within the range of a word, and a source that has been compiled compiles again. -/
theorem parse_of_naturalString {value : Value} {text : String}
    (written : value.naturalString = .ok (some text)) :
    parse value.signature text = .ok value := by
  cases value with
  | nil type => cases type <;> cases written
  | boolean payload => cases payload <;> cases written <;> rfl
  | integer payload =>
    cases written
    simp only [signature, parse, Numeral.integer?_integer, Option.bind_some, Numeral.word?_toInt]
  | string payload =>
    cases written
    rfl
  | regexp payload =>
    cases written
    simp only [signature, parse, Matcher.compile?_source]
  | list unit items => cases written
  | map unit entries => cases written

/-- Within one type, the natural string tells scalars apart: each is what the string is read
back as. -/
theorem eq_of_naturalString {left right : Value} {text : String}
    (typed : left.signature = right.signature) (ofLeft : left.naturalString = .ok (some text))
    (ofRight : right.naturalString = .ok (some text)) : left = right := by
  have read : parse left.signature text = .ok right := typed ▸ parse_of_naturalString ofRight
  exact Except.ok.inj ((parse_of_naturalString ofLeft).symm.trans read)

/-- A scalar that is there has a natural string, and this is read back under the type of the
scalar as a value equal to it. No other scalar of the type has the same string. -/
theorem naturalString_read_back {value : Value} (scalar : value.signature.isScalar = true)
    (present : value.isNil = false) :
    (∃ text, value.naturalString = .ok (some text) ∧
      ∃ read, parse value.signature text = .ok read ∧ read.equal value = true) ∧
    ∀ other : Value, other.signature = value.signature → other.isNil = false →
      other.naturalString = value.naturalString → other.equal value = true := by
  obtain ⟨text, written⟩ := naturalString_of_present scalar present
  refine ⟨⟨text, written, value, parse_of_naturalString written, value.equal_refl⟩, ?_⟩
  intro other typed _ same
  rw [eq_of_naturalString typed (same.trans written) written]
  exact value.equal_refl

/-- The least integer is read back too, although no integer is its opposite. -/
theorem naturalString_read_back_least :
    let least := Value.integer (-9223372036854775808)
    least.signature.isScalar = true ∧ least.isNil = false ∧
      least.naturalString = .ok (some "-9223372036854775808") ∧
      (∃ read, parse .integer "-9223372036854775808" = .ok read ∧ read.equal least = true) ∧
      ∀ other : Value, other.signature = .integer → other.isNil = false →
        other.naturalString = .ok (some "-9223372036854775808") → other.equal least = true := by
  intro least
  have written : least.naturalString = .ok (some "-9223372036854775808") := by rfl
  obtain ⟨⟨text, natural, read⟩, unique⟩ := @naturalString_read_back least rfl rfl
  cases natural.symm.trans written
  rw [written] at unique
  exact ⟨rfl, rfl, written, read, unique⟩

end Value

end RuleTree
