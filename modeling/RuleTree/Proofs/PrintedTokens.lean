import RuleTree.Json.Printer
import RuleTree.Json.Token
import RuleTree.Proofs.OrderedJson

/-!
# The tokens of printed JSON

Cutting the printed text of a JSON value gives back the tokens that the printer had
in mind: every string with its text unescaped, and every integer with its digits.
Numbers that are doubles are left out.

A cut works on what is left of a text and keeps the tokens it has found, with fuel
that is never used up. `Cuts` hides the fuel and the tokens found before, so that
the cut of a text is put together from the cuts of its pieces.
-/

namespace RuleTree.Json

/-! ## Strings -/

/-- The four digits that stand for a control are those of its number. -/
theorem hexUnit?_control :
    ∀ n < 0x20, hexUnit? '0' '0' (Nat.digitChar (n / 16)) (Nat.digitChar (n % 16)) = some n := by
  decide

/-- A control that is given by number is read back by its number. -/
theorem readUnit_control {c : Char} (control : c.toNat < 0x20) (rest : List Char) :
    readUnit ('0' :: '0' :: Nat.digitChar (c.toNat / 16) :: Nat.digitChar (c.toNat % 16) :: rest) =
      .ok (c.toNat, rest) := by
  simp only [readUnit, hexUnit?_control c.toNat control]

/-- A character is written by a letter after a backslash, by its number, or as it is. -/
theorem escape_cases (c : Char) :
    (∃ letter, escape c = ['\\', letter] ∧ letter ≠ 'u' ∧ letterEscape? letter = some c) ∨
      (c.toNat < 0x20 ∧ escape c = ['\\', 'u', '0', '0', Nat.digitChar (c.toNat / 16),
        Nat.digitChar (c.toNat % 16)]) ∨
      (¬c.toNat < 0x20 ∧ c ≠ '"' ∧ c ≠ '\\' ∧ escape c = [c]) := by
  unfold escape
  split
  case h_8 notQuote notBackslash _ _ _ _ _ =>
    split
    · rename_i control
      exact .inr (.inl ⟨control, rfl⟩)
    · rename_i plain
      exact .inr (.inr ⟨plain, notQuote, notBackslash, rfl⟩)
  all_goals exact .inl ⟨_, rfl, by decide, rfl⟩

/-- Reading a written character takes one step. -/
theorem readText_escape (done : List Char) (fuel : Nat) (c : Char) (rest : List Char) :
    readText done (fuel + 1) (escape c ++ rest) = readText (c :: done) fuel rest := by
  rcases escape_cases c with ⟨letter, written, notUnit, known⟩ | ⟨control, written⟩ |
    ⟨plain, notQuote, notBackslash, written⟩
  · have read : readEscape (letter :: rest) = .ok (c, rest) := by
      rw [readEscape, known]
      exact notUnit
    simp only [written, List.cons_append, List.nil_append, readText, read, bind, Except.bind]
  · have notTrailing : isTrailing c.toNat = false := by
      simp only [isTrailing, Bool.and_eq_false_iff, decide_eq_false_iff_not]
      omega
    have notLeading : isLeading c.toNat = false := by
      simp only [isLeading, Bool.and_eq_false_iff, decide_eq_false_iff_not]
      omega
    simp only [written, List.cons_append, List.nil_append, readText, readEscape,
      readUnit_control control, notTrailing, notLeading, Char.ofNat_toNat, bind, Except.bind,
      Bool.false_eq_true, if_false]
  · simp only [written, List.cons_append, List.nil_append]
    rw [readText, if_neg plain]
    · exact notQuote
    · exact notBackslash

/-- Passing over a written character takes one step. -/
theorem passText_escape (fuel : Nat) (c : Char) (rest : List Char) :
    passText (fuel + 1) (escape c ++ rest) = passText fuel rest := by
  rcases escape_cases c with ⟨letter, written, notUnit, known⟩ | ⟨control, written⟩ |
    ⟨plain, notQuote, notBackslash, written⟩
  · have passed : passEscape (letter :: rest) = .ok rest := by
      rw [passEscape, known]
      · rfl
      · exact notUnit
    simp only [written, List.cons_append, List.nil_append, passText, passed, bind, Except.bind]
  · simp only [written, List.cons_append, List.nil_append, passText, passEscape,
      readUnit_control control, Except.map, bind, Except.bind]
  · simp only [written, List.cons_append, List.nil_append]
    rw [passText, if_neg plain]
    · exact notQuote
    · exact notBackslash

/-- A written text is read up to its quote, with a step for each character and one for
the quote. -/
theorem readText_written (done text : List Char) {fuel : Nat} (enough : text.length < fuel)
    (rest : List Char) :
    readText done fuel (text.flatMap escape ++ '"' :: rest) =
      .ok (String.ofList (done.reverse ++ text), rest) := by
  induction text generalizing done fuel with
  | nil =>
    obtain ⟨left, rfl⟩ := Nat.exists_eq_add_of_lt enough
    simp [readText]
  | cons c more inductionHypothesis =>
    obtain ⟨left, rfl⟩ := Nat.exists_eq_add_of_lt enough
    have further : more.length < more.length + 1 + left := by omega
    rw [List.flatMap_cons, List.append_assoc, List.length_cons, readText_escape,
      inductionHypothesis (c :: done) further]
    simp

/-- A written text is passed over up to its quote. -/
theorem passText_written (text : List Char) {fuel : Nat} (enough : text.length < fuel)
    (rest : List Char) : passText fuel (text.flatMap escape ++ '"' :: rest) = .ok rest := by
  induction text generalizing fuel with
  | nil =>
    obtain ⟨left, rfl⟩ := Nat.exists_eq_add_of_lt enough
    simp [passText]
  | cons c more inductionHypothesis =>
    obtain ⟨left, rfl⟩ := Nat.exists_eq_add_of_lt enough
    have further : more.length < more.length + 1 + left := by omega
    rw [List.flatMap_cons, List.append_assoc, List.length_cons, passText_escape,
      inductionHypothesis further]

/-! ## Integers -/

/-- What may stand after a number in a printed text: the end, or the sign that comes
after a value inside of something. -/
def Ends (rest : List Char) : Prop := ∀ c ∈ rest.head?, c ∈ [',', ']', '\x7d']

/-- The digits of an integer. -/
def Digits.ofInteger (n : Int) : Digits := ⟨decide (n < 0), Nat.toDigits 10 n.natAbs, none, none⟩

/-- The printed text of an integer is its sign and its digits. -/
theorem toList_integer (n : Int) :
    (Numeral.integer n).toList =
      if n < 0 then '-' :: Nat.toDigits 10 n.natAbs else Nat.toDigits 10 n.natAbs := by
  cases n with
  | ofNat n => simp [Numeral.integer, Numeral.natural]
  | negSucc n => simp [Numeral.integer, Numeral.natural, Int.negSucc_lt_zero]

/-- The first digit of a number that is not zero is not a zero. -/
theorem head_toDigits {n : Nat} (positive : 0 < n) : (Nat.toDigits 10 n).head? ≠ some '0' := by
  induction n using Nat.strongRecOn with
  | ind n inductionHypothesis =>
    by_cases small : n < 10
    · rw [Nat.toDigits_of_lt_base small, List.head?_cons]
      have nonzero : ∀ digit < 10, 0 < digit → Nat.digitChar digit ≠ '0' := by decide
      exact fun same => nonzero n small positive (Option.some.inj same)
    · have shorter : n / 10 < n := Nat.div_lt_self positive (by decide)
      have head := inductionHypothesis (n / 10) shorter (by omega)
      rw [Nat.toDigits_of_base_le (by decide) (by omega), List.head?_append]
      cases first : (Nat.toDigits 10 (n / 10)).head? with
      | none => exact absurd (List.head?_eq_none_iff.mp first) Nat.toDigits_ne_nil
      | some digit =>
        rw [first] at head
        exact head

/-- What may follow a number goes on with no number. -/
theorem Ends.head {c : Char} {more : List Char} (ends : Ends (c :: more)) :
    c.isDigit = false ∧ c ≠ '.' ∧ c ≠ 'e' ∧ c ≠ 'E' := by
  have sign := ends c rfl
  revert sign
  simp only [List.mem_cons, List.not_mem_nil, or_false]
  rintro (rfl | rfl | rfl) <;> decide

/-- Digits are taken up to what may follow a number. -/
theorem takeWhile_digits {digits rest : List Char} (all : ∀ c ∈ digits, c.isDigit = true)
    (ends : Ends rest) :
    (digits ++ rest).takeWhile Char.isDigit = digits ∧
      (digits ++ rest).dropWhile Char.isDigit = rest := by
  rw [List.takeWhile_append_of_pos all, List.dropWhile_append_of_pos all]
  cases rest with
  | nil => simp
  | cons c more => simp [ends.head.1]

/-- What may follow a number is no exponent. -/
theorem Ends.readExponent? {rest : List Char} (ends : Ends rest) :
    readExponent? rest = .ok (none, rest) := by
  cases rest with
  | nil => rfl
  | cons c more =>
    obtain ⟨_, _, notLower, notUpper⟩ := ends.head
    rw [Json.readExponent?]
    · exact fun _ same => notLower (List.cons.inj same).1
    · exact fun _ same => notUpper (List.cons.inj same).1

/-- The digits of a number are read up to what may follow them. -/
theorem readNumber_toDigits (negative : Bool) (n : Nat) {rest : List Char} (ends : Ends rest) :
    readNumber negative (Nat.toDigits 10 n ++ rest) =
      .ok (⟨negative, Nat.toDigits 10 n, none, none⟩, rest) := by
  have digits : ∀ c ∈ Nat.toDigits 10 n, c.isDigit = true := fun c member =>
    Nat.isDigit_of_mem_toDigits (by decide) (by decide) member
  rcases Nat.eq_zero_or_pos n with rfl | positive
  · rw [Nat.toDigits_zero, List.cons_append, List.nil_append]
    cases rest with
    | nil => rfl
    | cons c more =>
      simp only [readNumber, ends.head.1, bind, Except.bind, Bool.false_eq_true, if_false]
      split
      · rename_i same
        exact absurd (List.cons.inj same).1 ends.head.2.1
      · simp only [ends.readExponent?]
  · have head := head_toDigits positive
    obtain ⟨taken, left⟩ := takeWhile_digits digits ends
    cases written : Nat.toDigits 10 n with
    | nil => exact absurd written Nat.toDigits_ne_nil
    | cons first others =>
      rw [written] at head taken left
      have notZero : first ≠ '0' := fun same => head (congrArg some same)
      rw [List.cons_append] at taken left ⊢
      unfold readNumber
      split
      · rename_i same
        exact absurd (List.cons.inj same).1 notZero
      · simp only [taken, left, List.isEmpty_cons, bind, Except.bind, Bool.false_eq_true, if_false]
        split
        · exact absurd rfl ends.head.2.1
        · simp only [ends.readExponent?]

/-- Further digits make no number smaller. -/
theorem le_ofDigitChars (digits : List Char) (number : Nat) :
    number ≤ Nat.ofDigitChars 10 digits number := by
  induction digits generalizing number with
  | nil => exact Nat.le_refl number
  | cons digit rest inductionHypothesis =>
    rw [Nat.ofDigitChars_cons]
    have longer := inductionHypothesis (10 * number + (digit.toNat - '0'.toNat))
    omega

/-- All digits of a number that a word holds are taken. -/
theorem accumulate_fits {digits : List Char} {number : Nat}
    (small : Nat.ofDigitChars 10 digits number < Nat.pow 2 64) (fitted : Nat) :
    accumulate number fitted digits =
      (Nat.ofDigitChars 10 digits number, fitted + digits.length, 0) := by
  induction digits generalizing number fitted with
  | nil => rfl
  | cons digit rest inductionHypothesis =>
    rw [Nat.ofDigitChars_cons, Nat.mul_comm] at small
    have here := Nat.lt_of_le_of_lt (le_ofDigitChars rest _) small
    rw [accumulate, if_pos here, inductionHypothesis small, Nat.ofDigitChars_cons, Nat.mul_comm,
      List.length_cons, Nat.add_right_comm, Nat.add_assoc]

/-- The digits of an integer that a word holds stand for it. -/
theorem number?_ofInteger {n : Int} (fits : Numeral.FitsWord n) :
    (Digits.ofInteger n).number? = some (.integer n) := by
  obtain ⟨least, greatest⟩ := fits
  have low : -9223372036854775808 ≤ n := least
  have high : n < 9223372036854775808 := greatest
  have wide : Nat.pow 2 64 = 18446744073709551616 := rfl
  have narrow : Nat.pow 2 63 = 9223372036854775808 := rfl
  have value : Nat.ofDigitChars 10 (Nat.toDigits 10 n.natAbs) 0 = n.natAbs :=
    Nat.ofDigitChars_ten_toDigits
  have small : Nat.ofDigitChars 10 (Nat.toDigits 10 n.natAbs) 0 < Nat.pow 2 64 := by
    rw [value, wide]
    omega
  have taken := accumulate_fits small 0
  rw [value] at taken
  simp only [Digits.number?, Digits.ofInteger, taken, Option.isNone_none, and_self, if_true]
  by_cases negative : n < 0
  · have bounds : 0 < n.natAbs ∧ n.natAbs ≤ Nat.pow 2 63 := by
      rw [narrow]
      omega
    have back : -(n.natAbs : Int) = n := by omega
    simp only [decide_eq_true negative, Bool.not_true, Bool.false_eq_true, if_false, bounds,
      and_self, if_true, back]
  · have back : (n.natAbs : Int) = n := by omega
    simp only [decide_eq_false negative, Bool.not_false, if_true, back]

/-! ## Cutting -/

/-- Cutting a text finds the given tokens and goes on with the rest. -/
def Cuts (text : List Char) (found : List Token) (rest : List Char) : Prop :=
  ∀ before fuel, text.length < fuel → ∃ left, rest.length < left ∧
    tokensFrom before fuel text = tokensFrom (found.reverse ++ before) left rest

/-- Two cuts one after the other. -/
theorem Cuts.trans {text middle rest : List Char} {found more : List Token}
    (first : Cuts text found middle) (second : Cuts middle more rest) :
    Cuts text (found ++ more) rest := by
  intro before fuel enough
  obtain ⟨between, enoughBetween, cutFirst⟩ := first before fuel enough
  obtain ⟨left, enoughLeft, cutSecond⟩ := second (found.reverse ++ before) between enoughBetween
  refine ⟨left, enoughLeft, ?_⟩
  rw [cutFirst, cutSecond, List.reverse_append, List.append_assoc]

/-- One step of the cut that finds a token. -/
theorem cuts_step {text rest : List Char} {token : Token} (shorter : rest.length < text.length)
    (step : ∀ before fuel, text.length ≤ fuel →
      tokensFrom before (fuel + 1) text = tokensFrom (token :: before) fuel rest) :
    Cuts text [token] rest := by
  intro before fuel enough
  obtain ⟨left, rfl⟩ := Nat.exists_eq_add_of_lt enough
  exact ⟨text.length + left, Nat.lt_add_right left shorter, step before _ (Nat.le_add_right _ _)⟩

/-- A sign is a token by itself. -/
theorem cuts_sign {c : Char} {sign : Token} (known : sign? c = some sign)
    (visible : isBlank c = false) (rest : List Char) : Cuts (c :: rest) [sign] rest := by
  refine cuts_step (Nat.lt_succ_self _) fun before fuel _ => ?_
  simp [tokensFrom, visible, known]

/-- The letters of a word are read off. -/
theorem readWord_append (letters rest : List Char) :
    readWord letters (letters ++ rest) = .ok rest := by
  induction letters with
  | nil => cases rest <;> rfl
  | cons letter others inductionHypothesis => simp [readWord, inductionHypothesis]

/-- A word is a token. -/
theorem cuts_word {c : Char} {value : Json} {letters : List Char}
    (known : word? c = some (value, letters)) (noSign : sign? c = none)
    (visible : isBlank c = false) (rest : List Char) :
    Cuts (c :: letters ++ rest) [.word value] rest := by
  refine cuts_step (by simp only [List.cons_append, List.length_cons, List.length_append]; omega)
    fun before fuel _ => ?_
  simp [tokensFrom, visible, known, noSign, readWord_append]

/-- A written text is not shorter than the text. -/
theorem length_le_escape (text : List Char) : text.length ≤ (text.flatMap escape).length := by
  induction text with
  | nil => exact Nat.le_refl 0
  | cons c more inductionHypothesis =>
    have something : 0 < (escape c).length := by
      rcases escape_cases c with ⟨_, written, _⟩ | ⟨_, written⟩ | ⟨_, _, _, written⟩ <;>
        simp [written]
    rw [List.flatMap_cons, List.length_append, List.length_cons]
    omega

/-- A printed string is a token with its text. -/
theorem cuts_string (text : String) (rest : List Char) :
    Cuts (printString text ++ rest) [.string (.ok text) (.ok ())] rest := by
  have longer := length_le_escape text.toList
  have shape : printString text ++ rest =
      '"' :: (text.toList.flatMap escape ++ '"' :: rest) := by
    simp [printString]
  have visible : isBlank '"' = false := rfl
  have noSign : sign? '"' = none := rfl
  have noWord : word? '"' = none := rfl
  rw [shape]
  refine cuts_step (by simp only [List.length_cons, List.length_append]; omega)
    fun before fuel enough => ?_
  have steps : text.toList.length < fuel := by
    simp only [List.length_cons, List.length_append] at enough
    omega
  rw [tokensFrom]
  simp only [visible, noSign, noWord, readText_written [] _ steps, passText_written _ steps]
  simp [Except.map]

/-- A digit begins nothing but a number. -/
theorem digit_begins_number {c : Char} (digit : c.isDigit = true) :
    isBlank c = false ∧ sign? c = none ∧ word? c = none ∧ (c == '"') = false ∧
      (c == '-') = false := by
  have decided : ∀ n < 128, (Char.ofNat n).isDigit = true →
      isBlank (Char.ofNat n) = false ∧ (sign? (Char.ofNat n)).isNone ∧
        (word? (Char.ofNat n)).isNone ∧ (Char.ofNat n == '"') = false ∧
        (Char.ofNat n == '-') = false := by
    decide
  have low : c.toNat < 128 := by
    simp only [Char.isDigit, Bool.and_eq_true, decide_eq_true_eq] at digit
    have greatest : c.val.toNat ≤ 57 := UInt32.le_iff_toNat_le.mp digit.2
    exact Nat.lt_of_le_of_lt greatest (by decide)
  have facts := decided c.toNat low (by rwa [Char.ofNat_toNat])
  rw [Char.ofNat_toNat] at facts
  obtain ⟨visible, noSign, noWord, noQuote, noMinus⟩ := facts
  exact ⟨visible, Option.isNone_iff_eq_none.mp noSign, Option.isNone_iff_eq_none.mp noWord,
    noQuote, noMinus⟩

/-- A printed integer is a token with its digits. -/
theorem cuts_integer (n : Int) {rest : List Char} (ends : Ends rest) :
    Cuts ((Numeral.integer n).toList ++ rest) [.number (Digits.ofInteger n)] rest := by
  have read := readNumber_toDigits (decide (n < 0)) n.natAbs ends
  rw [toList_integer]
  by_cases negative : n < 0
  · have visible : isBlank '-' = false := rfl
    have noSign : sign? '-' = none := rfl
    have noWord : word? '-' = none := rfl
    have noQuote : ('-' == '"') = false := rfl
    rw [if_pos negative]
    refine cuts_step (by simp only [List.cons_append, List.length_cons, List.length_append]; omega)
      fun before fuel _ => ?_
    rw [decide_eq_true negative] at read
    rw [List.cons_append, tokensFrom]
    simp [visible, noSign, noWord, noQuote, read, Digits.ofInteger, negative]
  · rw [if_neg negative]
    cases written : Nat.toDigits 10 n.natAbs with
    | nil => exact absurd written Nat.toDigits_ne_nil
    | cons first others =>
      have digit : first.isDigit = true :=
        Nat.isDigit_of_mem_toDigits (by decide) (by decide) (written ▸ List.mem_cons_self)
      obtain ⟨visible, noSign, noWord, noQuote, noMinus⟩ := digit_begins_number digit
      refine cuts_step
        (by simp only [List.cons_append, List.length_cons, List.length_append]; omega)
        fun before fuel _ => ?_
      rw [decide_eq_false negative, written, List.cons_append] at read
      rw [List.cons_append, tokensFrom]
      simp [visible, noSign, noWord, noQuote, noMinus, digit, read, Digits.ofInteger, negative,
        written]

/-! ## Whole values -/

/-- At every depth, numbers are integers that a signed 64-bit word holds, and the
members of an object are in ascending order of their names. -/
inductive Plain : Json → Prop
  | null : Plain .null
  | bool (value : Bool) : Plain (.bool value)
  | integer (n : Int) (fits : Numeral.FitsWord n) : Plain (.number (.integer n))
  | string (text : String) : Plain (.string text)
  | array (items : List Json) (inside : ∀ item ∈ items, Plain item) : Plain (.array items)
  | object (members : List (String × Json)) (inside : ∀ member ∈ members, Plain member.2)
      (ascending : Entries.Ascending (members.map (·.1))) : Plain (.object members)

mutual
/-- The tokens of a value, where its numbers are integers. -/
def tokensOf : Json → List Token
  | .null => [.word .null]
  | .bool value => [.word (.bool value)]
  | .number (.integer n) => [.number (Digits.ofInteger n)]
  | .number (.double _) => []
  | .string text => [.string (.ok text) (.ok ())]
  | .array [] => [.openArray, .closeArray]
  | .array (item :: items) => .openArray :: tokensOf item ++ itemTokens items ++ [.closeArray]
  | .object [] => [.openObject, .closeObject]
  | .object ((name, value) :: members) =>
    .openObject :: .string (.ok name) (.ok ()) :: .colon :: tokensOf value ++
      memberTokens members ++ [.closeObject]

/-- The tokens of the items after the first. -/
def itemTokens : List Json → List Token
  | [] => []
  | item :: rest => .comma :: tokensOf item ++ itemTokens rest

/-- The tokens of the members after the first. -/
def memberTokens : List (String × Json) → List Token
  | [] => []
  | (name, value) :: rest =>
    .comma :: .string (.ok name) (.ok ()) :: .colon :: tokensOf value ++ memberTokens rest
end

/-- Further items begin with a comma. -/
theorem ends_printItems (items : List Json) (rest : List Char) :
    Ends (printItems items ++ ']' :: rest) := by
  cases items <;> simp [printItems, Ends]

/-- Further members begin with a comma. -/
theorem ends_printMembers (members : List (String × Json)) (rest : List Char) :
    Ends (printMembers members ++ '\x7d' :: rest) := by
  rcases members with _ | ⟨⟨name, value⟩, members⟩ <;> simp [printMembers, Ends]

/-- A printed value is cut into its tokens, whatever may come after it. -/
def CutsToTokens (json : Json) : Prop :=
  ∀ rest, Ends rest → Cuts (print json ++ rest) (tokensOf json) rest

/-- Further items are cut one after the other, up to the bracket. -/
theorem cuts_items {items : List Json} (each : ∀ item ∈ items, CutsToTokens item)
    (rest : List Char) :
    Cuts (printItems items ++ ']' :: rest) (itemTokens items ++ [.closeArray]) rest := by
  induction items with
  | nil => exact cuts_sign rfl rfl rest
  | cons item more inductionHypothesis =>
    obtain ⟨here, others⟩ := List.forall_mem_cons.mp each
    have comma := cuts_sign (c := ',') rfl rfl (print item ++ (printItems more ++ ']' :: rest))
    have value := here _ (ends_printItems more rest)
    have all := comma.trans (value.trans (inductionHypothesis others))
    simpa [printItems, itemTokens] using all

/-- A member is cut into its name, a colon and its value. -/
theorem cuts_member (name : String) {value : Json} (cut : CutsToTokens value) {rest : List Char}
    (ends : Ends rest) :
    Cuts (printString name ++ ':' :: (print value ++ rest))
      (.string (.ok name) (.ok ()) :: .colon :: tokensOf value) rest :=
  (cuts_string name _).trans ((cuts_sign rfl rfl _).trans (cut rest ends))

/-- Further members are cut one after the other, up to the brace. -/
theorem cuts_members {members : List (String × Json)}
    (each : ∀ member ∈ members, CutsToTokens member.2) (rest : List Char) :
    Cuts (printMembers members ++ '\x7d' :: rest) (memberTokens members ++ [.closeObject])
      rest := by
  induction members with
  | nil => exact cuts_sign rfl rfl rest
  | cons member more inductionHypothesis =>
    obtain ⟨name, value⟩ := member
    obtain ⟨here, others⟩ := List.forall_mem_cons.mp each
    have comma := cuts_sign (c := ',') rfl rfl
      (printString name ++ ':' :: (print value ++ (printMembers more ++ '\x7d' :: rest)))
    have member := cuts_member name here (ends_printMembers more rest)
    have all := comma.trans (member.trans (inductionHypothesis others))
    simpa [printMembers, memberTokens] using all

/-- A plain value is cut into its tokens. -/
theorem cuts_print {json : Json} (plain : Plain json) : CutsToTokens json := by
  intro rest ends
  induction json generalizing rest with
  | null => exact cuts_word rfl rfl rfl rest
  | bool value =>
    cases value with
    | true => exact cuts_word rfl rfl rfl rest
    | false => exact cuts_word rfl rfl rfl rest
  | number value =>
    cases plain with
    | integer n fits => exact cuts_integer n ends
  | string text => exact cuts_string text rest
  | array items inductionHypothesis =>
    cases plain with
    | array _ inside =>
      have each : ∀ item ∈ items, CutsToTokens item := fun item member rest ends =>
        inductionHypothesis item member (inside item member) rest ends
      cases items with
      | nil => exact (cuts_sign rfl rfl _).trans (cuts_sign rfl rfl rest)
      | cons item more =>
        obtain ⟨here, others⟩ := List.forall_mem_cons.mp each
        have bracket := cuts_sign (c := '[') rfl rfl
          (print item ++ (printItems more ++ ']' :: rest))
        have all := bracket.trans ((here _ (ends_printItems more rest)).trans
          (cuts_items others rest))
        simpa [print, tokensOf] using all
  | object members inductionHypothesis =>
    cases plain with
    | object _ inside ascending =>
      have each : ∀ member ∈ members, CutsToTokens member.2 := fun entry member rest ends =>
        inductionHypothesis entry member (inside entry member) rest ends
      rcases members with _ | ⟨⟨name, value⟩, more⟩
      · exact (cuts_sign rfl rfl _).trans (cuts_sign rfl rfl rest)
      · obtain ⟨here, others⟩ := List.forall_mem_cons.mp each
        have brace := cuts_sign (c := '\x7b') rfl rfl
          (printString name ++ ':' :: (print value ++ (printMembers more ++ '\x7d' :: rest)))
        have all := brace.trans ((cuts_member name here (ends_printMembers more rest)).trans
          (cuts_members others rest))
        simpa [print, tokensOf] using all

/-- The text of a plain value has the tokens of the value. -/
theorem tokens_compact {json : Json} (plain : Plain json) :
    tokens json.compact = tokensOf json := by
  have ends : Ends [] := by simp [Ends]
  have cut := cuts_print plain [] ends
  rw [List.append_nil] at cut
  obtain ⟨left, enough, found⟩ := cut [] _ (Nat.lt_succ_self _)
  obtain ⟨more, rfl⟩ := Nat.exists_eq_add_of_lt enough
  rw [tokens, compact, String.toList_ofList, found]
  simp [tokensFrom]

end RuleTree.Json
