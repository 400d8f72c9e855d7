/-!
# Numerals

Whole numbers are written in decimal with the fewest digits, a minus sign in
front of the negative ones. Reading is more liberal than writing: it takes a
plus sign and leading zeros. What it never takes is anything but ASCII digits
after the sign, so no blank, no low line and no digit of another script.
-/

namespace RuleTree.Numeral

/-- The decimal numeral of a natural number. -/
def natural (n : Nat) : String := String.ofList (Nat.toDigits 10 n)

/-- The decimal numeral of an integer. -/
def integer : Int → String
  | .ofNat n => natural n
  | .negSucc n => "-" ++ natural (n + 1)

/-- The lower case hexadecimal numeral of a natural number. -/
def hexadecimal (n : Nat) : String := String.ofList (Nat.toDigits 16 n)

/-- The number written by one or more ASCII digits and nothing else. -/
def natural? (digits : List Char) : Option Nat :=
  if digits ≠ [] ∧ digits.all Char.isDigit then some (Nat.ofDigitChars 10 digits 0) else none

/-- The number written by an optional sign before one or more ASCII digits. -/
def integer? : List Char → Option Int
  | '+' :: digits => (natural? digits).map Int.ofNat
  | '-' :: digits => (natural? digits).map fun n => -(n : Int)
  | digits => (natural? digits).map Int.ofNat

/-- The value of a hexadecimal digit, upper or lower case. -/
def hexDigit? (c : Char) : Option Nat :=
  if '0' ≤ c ∧ c ≤ '9' then some (c.toNat - '0'.toNat)
  else if 'A' ≤ c ∧ c ≤ 'F' then some (c.toNat - 'A'.toNat + 10)
  else if 'a' ≤ c ∧ c ≤ 'f' then some (c.toNat - 'a'.toNat + 10)
  else none

/-- Whether a 64-bit signed word can hold the number. -/
def FitsWord (n : Int) : Prop := -Int.pow 2 63 ≤ n ∧ n < Int.pow 2 63

instance (n : Int) : Decidable (FitsWord n) := inferInstanceAs (Decidable (_ ∧ _))

/-- The word of that number, where there is one. -/
def word? (n : Int) : Option Int64 := if FitsWord n then some (Int64.ofInt n) else none

/-- A word holds its own number. -/
theorem fitsWord_toInt (word : Int64) : FitsWord word.toInt := ⟨word.le_toInt, word.toInt_lt⟩

/-- A word is the word of its number. -/
theorem word?_toInt (word : Int64) : word? word.toInt = some word := by
  rw [word?, if_pos (fitsWord_toInt word), Int64.ofInt_toInt]

/-- The word of a number is the one that holds it. -/
theorem word?_eq_some_iff {n : Int} {word : Int64} : word? n = some word ↔ word.toInt = n := by
  constructor
  · intro found
    unfold word? at found
    split at found
    · rename_i fits
      cases found
      exact Int64.toInt_ofInt_of_le fits.1 fits.2
    · cases found
  · rintro rfl
    exact word?_toInt word

end RuleTree.Numeral
