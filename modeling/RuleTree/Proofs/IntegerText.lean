import Mathlib.Data.Nat.Digits.Defs
import RuleTree.Proofs.NaturalText

/-!
# The numerals of integers

A numeral of an integer is made of one or more decimal digits, in front of which a single
sign may stand. `Denotes` lists the numerals by what they are made of, and gives the number
of each by the places of its digits; it knows no order of reading and no width. Zeros in front
are digits like others, so a numeral may be of any length and still denote a small number.

Reading goes over the digits from the first to the last and keeps one number, which each
digit multiplies by ten and adds to. What it has at the end is the number of the places. Text
is therefore read as an integer if it is a numeral and a word holds what it denotes. All
other text is refused, and the error names the text and the type.
-/

namespace RuleTree

namespace Numeral

/-- The character of a decimal digit, from '0' to '9'. -/
def digit (value : Fin 10) : Char := Nat.digitChar value

/-- The number that digits stand for by their places, of which the last is that of the ones. -/
def placeValue (digits : List (Fin 10)) : Nat := Nat.ofDigits 10 (digits.map Fin.val).reverse

/-- The numerals of integers: digits, of which there is at least one, after a sign or none. -/
inductive Denotes : List Char → Int → Prop
  | unsigned (digits : List (Fin 10)) (occupied : digits ≠ []) :
      Denotes (digits.map digit) (placeValue digits)
  | plus (digits : List (Fin 10)) (occupied : digits ≠ []) :
      Denotes ('+' :: digits.map digit) (placeValue digits)
  | minus (digits : List (Fin 10)) (occupied : digits ≠ []) :
      Denotes ('-' :: digits.map digit) (-placeValue digits)

/-! ## Digits -/

/-- The character of a digit is a digit. -/
theorem isDigit_digit : ∀ value, (digit value).isDigit = true := by decide

/-- The value of a digit is how far its character is from that of zero. -/
theorem toNat_digit : ∀ value, (digit value).toNat - '0'.toNat = value.val := by decide

/-- What is a digit is the character of one of the ten. -/
theorem exists_digit {c : Char} (isDigit : c.isDigit = true) : ∃ value, digit value = c := by
  obtain ⟨least, greatest⟩ := Char.isDigit_iff_toNat.mp isDigit
  have least : 48 ≤ c.toNat := least
  have greatest : c.toNat ≤ 57 := greatest
  have small : c.toNat - 48 < 10 := by omega
  refine ⟨⟨c.toNat - 48, small⟩, Char.toNat_inj.mp ?_⟩
  have distance : (digit ⟨c.toNat - 48, small⟩).toNat = 48 + (c.toNat - 48) :=
    Nat.toNat_digitChar_of_lt_ten small
  omega

/-- What has only digits in it is the text of a list of digits. -/
theorem exists_digits {text : List Char} (all : ∀ c ∈ text, c.isDigit = true) :
    ∃ digits : List (Fin 10), digits.map digit = text := by
  induction text with
  | nil => exact ⟨[], rfl⟩
  | cons c rest inductionHypothesis =>
    obtain ⟨first, others⟩ := List.forall_mem_cons.mp all
    obtain ⟨value, rfl⟩ := exists_digit first
    obtain ⟨digits, rfl⟩ := inductionHypothesis others
    exact ⟨value :: digits, rfl⟩

/-- The first digit counts as often as its place says. -/
theorem placeValue_cons (first : Fin 10) (rest : List (Fin 10)) :
    placeValue (first :: rest) = placeValue rest + 10 ^ rest.length * first.val := by
  simpa [placeValue] using Nat.ofDigits_reverse_cons (rest.map Fin.val) first.val

/-- Reading digits moves the number read before them up by their places, and adds what they
stand for.

Proof: by induction on the digits. The first of them multiplies the number by ten and adds
its value, and both are moved up by the places of the others. -/
theorem ofDigitChars_digits (digits : List (Fin 10)) (before : Nat) :
    Nat.ofDigitChars 10 (digits.map digit) before =
      10 ^ digits.length * before + placeValue digits := by
  induction digits generalizing before with
  | nil => simp [placeValue]
  | cons first rest inductionHypothesis =>
    calc Nat.ofDigitChars 10 ((first :: rest).map digit) before
        = Nat.ofDigitChars 10 (rest.map digit) (10 * before + first.val) := by
          rw [List.map_cons, Nat.ofDigitChars_cons, toNat_digit]
      _ = 10 ^ rest.length * (10 * before + first.val) + placeValue rest :=
          inductionHypothesis _
      _ = 10 ^ (first :: rest).length * before + placeValue (first :: rest) := by
          rw [placeValue_cons, List.length_cons, Nat.pow_succ]
          ring

/-! ## Numerals -/

/-- A natural number is read from digits alone, at least one, and is what they stand for. -/
theorem natural?_eq_some_iff {text : List Char} {n : Nat} :
    natural? text = some n ↔
      ∃ digits : List (Fin 10), digits ≠ [] ∧ digits.map digit = text ∧ placeValue digits = n := by
  constructor
  · intro read
    unfold natural? at read
    split at read
    · rename_i isNumeral
      obtain ⟨occupied, all⟩ := isNumeral
      obtain ⟨digits, rfl⟩ := exists_digits (List.all_eq_true.mp all)
      have value := ofDigitChars_digits digits 0
      rw [Nat.mul_zero, Nat.zero_add] at value
      refine ⟨digits, fun none => occupied (congrArg (List.map digit) none), rfl, ?_⟩
      exact value.symm.trans (Option.some.inj read)
    · cases read
  · rintro ⟨digits, occupied, rfl, rfl⟩
    have all : (digits.map digit).all Char.isDigit = true := by
      simp [isDigit_digit]
    rw [natural?, if_pos ⟨fun none => occupied (List.map_eq_nil_iff.mp none), all⟩,
      ofDigitChars_digits, Nat.mul_zero, Nat.zero_add]

/-- An integer is read from its numerals and from nothing else. -/
theorem integer?_eq_some_iff {text : List Char} {n : Int} :
    integer? text = some n ↔ Denotes text n := by
  constructor
  · intro read
    unfold integer? at read
    split at read
    · obtain ⟨magnitude, ofDigits, rfl⟩ := Option.map_eq_some_iff.mp read
      obtain ⟨digits, occupied, rfl, rfl⟩ := natural?_eq_some_iff.mp ofDigits
      exact .plus digits occupied
    · -- After a minus the digits are made an integer first, and that is negated.
      obtain ⟨_, ofDigits, rfl⟩ := Option.map_eq_some_iff.mp read
      obtain ⟨magnitude, ofDigits, same⟩ := Option.bind_eq_some_iff.mp ofDigits
      obtain ⟨digits, occupied, rfl, rfl⟩ := natural?_eq_some_iff.mp ofDigits
      cases same
      exact .minus digits occupied
    · obtain ⟨magnitude, ofDigits, rfl⟩ := Option.map_eq_some_iff.mp read
      obtain ⟨digits, occupied, rfl, rfl⟩ := natural?_eq_some_iff.mp ofDigits
      exact .unsigned digits occupied
  · intro denotes
    cases denotes with
    | unsigned digits occupied =>
      exact integer?_of_natural? (natural?_eq_some_iff.mpr ⟨digits, occupied, rfl, rfl⟩)
    | plus digits occupied | minus digits occupied =>
      rw [integer?, natural?_eq_some_iff.mpr ⟨digits, occupied, rfl, rfl⟩]
      rfl

/-- A word holds a number exactly if it lies between the two bounds, which are not opposite:
the lower is further from zero by one. -/
theorem exists_word_iff {n : Int} :
    (∃ word : Int64, word.toInt = n) ↔ -2 ^ 63 ≤ n ∧ n ≤ 2 ^ 63 - 1 := by
  constructor
  · rintro ⟨word, rfl⟩
    exact ⟨word.le_toInt, Int.le_sub_one_of_lt word.toInt_lt⟩
  · rintro ⟨least, greatest⟩
    have fits : FitsWord n := ⟨least, Int.lt_of_le_sub_one greatest⟩
    exact ⟨Int64.ofInt n, word?_eq_some_iff.mp (if_pos fits)⟩

/-- A text gives a word exactly if it is a numeral of the number that the word holds. -/
theorem integer?_word_iff {text : List Char} {word : Int64} :
    (integer? text).bind word? = some word ↔ Denotes text word.toInt := by
  simp only [Option.bind_eq_some_iff, integer?_eq_some_iff, word?_eq_some_iff, exists_eq_right']

end Numeral

namespace Value

section IntegerText

variable {text : String}

/-- Text is read as the integer of the word that holds what it denotes. -/
theorem parse_integer_ok_iff {value : Value} :
    parse .integer text = .ok value ↔
      ∃ word : Int64, value = .integer word ∧ Numeral.Denotes text.toList word.toInt := by
  simp only [← Numeral.integer?_word_iff, parse]
  cases (Numeral.integer? text.toList).bind Numeral.word? with
  | none => simp
  | some word => simp [eq_comm]

/-- Text is read as some integer exactly if it denotes one between the bounds. -/
theorem exists_parse_integer_iff :
    (∃ value, parse .integer text = .ok value) ↔
      ∃ n : Int, Numeral.Denotes text.toList n ∧ -2 ^ 63 ≤ n ∧ n ≤ 2 ^ 63 - 1 := by
  simp only [← Numeral.exists_word_iff]
  constructor
  · rintro ⟨value, read⟩
    obtain ⟨word, _, denotes⟩ := parse_integer_ok_iff.mp read
    exact ⟨word.toInt, denotes, word, rfl⟩
  · rintro ⟨_, denotes, word, rfl⟩
    exact ⟨.integer word, parse_integer_ok_iff.mpr ⟨word, rfl, denotes⟩⟩

/-- Text that is not read as an integer is refused as unreadable, and for no other reason. -/
theorem parse_integer_error_iff {error : DecodeError} :
    parse .integer text = .error error ↔
      error = .unreadable .integer text ∧ ¬∃ value, parse .integer text = .ok value := by
  rw [parse]
  cases (Numeral.integer? text.toList).bind Numeral.word? with
  | none => simp [eq_comm]
  | some word => simp

end IntegerText

/-- Which text is read as an integer, as which, and what becomes of all other text. What is
read is the integer that the text denotes. Text is read exactly if it denotes an integer
between the least and the greatest that a word holds. Any other text is refused by an error
that names the type and the text. -/
theorem parse_integer_exact (text : String) :
    (∀ value, parse .integer text = .ok value ↔
      ∃ word : Int64, value = .integer word ∧ Numeral.Denotes text.toList word.toInt) ∧
    ((∃ value, parse .integer text = .ok value) ↔
      ∃ n : Int, Numeral.Denotes text.toList n ∧ -2 ^ 63 ≤ n ∧ n ≤ 2 ^ 63 - 1) ∧
    ∀ error, parse .integer text = .error error ↔
      error = .unreadable .integer text ∧
        ¬∃ n : Int, Numeral.Denotes text.toList n ∧ -2 ^ 63 ≤ n ∧ n ≤ 2 ^ 63 - 1 := by
  refine ⟨fun _ => parse_integer_ok_iff, exists_parse_integer_iff, fun error => ?_⟩
  rw [← exists_parse_integer_iff]
  exact parse_integer_error_iff

/-- The numeral of the least integer is read, and that of its opposite is not. -/
example : parse .integer "-9223372036854775808" = .ok (.integer (-9223372036854775808)) ∧
    parse .integer "+9223372036854775808" =
      .error (.unreadable .integer "+9223372036854775808") := ⟨rfl, rfl⟩

end Value

end RuleTree
