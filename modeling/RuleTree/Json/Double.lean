import RuleTree.Text.Numeral

/-!
# Double precision numbers

A double is a whole number below `2 ^ 53` times a power of two, with a sign. The
module rounds quotients to the nearest double, finds the shortest decimal digits
that still name a double, and lays those digits out. All of it is arithmetic on
natural numbers, so nothing depends on a machine.

Only finite doubles exist here: rounding says when a quotient is too great.
-/

namespace RuleTree

/-- The number `mantissa * 2 ^ exponent`, or its negative. Zero has a sign too.
The exponent is at least -1074, and the mantissa is at least `2 ^ 52` unless the
exponent is the least. -/
structure Double where
  negative : Bool
  mantissa : Nat
  exponent : Int
  deriving DecidableEq, Repr

namespace Double

/-- The least exponent. -/
def leastExponent : Int := -1074

/-- The greatest exponent. -/
def greatestExponent : Int := 971

/-- Zero of either sign. -/
def zero (negative : Bool) : Double := ⟨negative, 0, leastExponent⟩

/-- The quotient rounded to a whole number, a half going to the even one. -/
def divideToEven (dividend divisor : Nat) : Nat :=
  let quotient := dividend / divisor
  let twice := 2 * (dividend % divisor)
  if twice < divisor then quotient
  else if divisor < twice then quotient + 1
  else quotient + quotient % 2

/-- The quotient `dividend / divisor` counted in units of `2 ^ exponent`, as a
dividend and a divisor. -/
def inUnits (dividend divisor : Nat) (exponent : Int) : Nat × Nat :=
  (dividend * Nat.pow 2 (-exponent).toNat, divisor * Nat.pow 2 exponent.toNat)

/-- The exponent of the unit in which the quotient is to be rounded: the one that
leaves 53 binary digits, but never below the least. -/
def roundingExponent (dividend divisor : Nat) : Int :=
  let guess := (Nat.log2 dividend : Int) - Nat.log2 divisor - 52
  let (scaled, unit) := inUnits dividend divisor guess
  max (if scaled < unit * Nat.pow 2 52 then guess - 1 else guess) leastExponent

/-- The double nearest to a quotient, unless it is too great. -/
def ofQuotient? (negative : Bool) (dividend divisor : Nat) : Option Double :=
  if dividend = 0 then some (zero negative)
  else
    let exponent := roundingExponent dividend divisor
    let (scaled, unit) := inUnits dividend divisor exponent
    let mantissa := divideToEven scaled unit
    let (mantissa, exponent) :=
      if mantissa = Nat.pow 2 53 then (Nat.pow 2 52, exponent + 1) else (mantissa, exponent)
    if exponent ≤ greatestExponent then some ⟨negative, mantissa, exponent⟩ else none

/-- The absolute value as a dividend and a divisor. -/
def quotient (double : Double) : Nat × Nat :=
  (double.mantissa * Nat.pow 2 double.exponent.toNat, Nat.pow 2 (-double.exponent).toNat)

/-- The double nearest to a power of ten with exponent below 309, and one where
there is none. -/
def powerOfTen (exponent : Nat) : Nat × Nat :=
  match ofQuotient? false (Nat.pow 10 exponent) 1 with
  | some double => double.quotient
  | none => (1, 1)

/-- The product with a power of ten, rounded once more. -/
def timesPowerOfTen? (double : Double) (exponent : Nat) : Option Double :=
  let (dividend, divisor) := double.quotient
  let (power, one) := powerOfTen exponent
  ofQuotient? double.negative (dividend * power) (divisor * one)

/-- The quotient by a power of ten, rounded once more. -/
def overPowerOfTen? (double : Double) (exponent : Nat) : Option Double :=
  let (dividend, divisor) := double.quotient
  let (power, one) := powerOfTen exponent
  ofQuotient? double.negative (dividend * one) (divisor * power)

/-- The greatest power of ten that is a double. -/
def greatestPower : Nat := 308

/-- The double named by decimal digits and an exponent of ten, unless it is too
great. The digits are rounded first, then scaled by one power of ten, or by two
where one does not reach; three would leave nothing of any number of 64 bits. -/
def ofDecimal? (negative : Bool) (digits : Nat) (exponent : Int) : Option Double := do
  let double ← ofQuotient? negative digits 1
  if digits = 0 then some double
  else if 0 ≤ exponent then
    if exponent ≤ greatestPower then double.timesPowerOfTen? exponent.toNat else none
  else
    let below := (-exponent).toNat
    if below ≤ greatestPower then double.overPowerOfTen? below
    else if below ≤ 2 * greatestPower then do
      let double ← double.overPowerOfTen? greatestPower
      double.overPowerOfTen? (below - greatestPower)
    else some (zero negative)

/-! ## The shortest digits -/

/-- The exponent of the first decimal digit of a positive quotient. -/
def decimalExponent (dividend divisor : Nat) : Int :=
  if divisor ≤ dividend then (Nat.toDigits 10 (dividend / divisor)).length - 1
  else
    let places := (Nat.toDigits 10 (divisor / dividend)).length
    if dividend * Nat.pow 10 (places - 1) = divisor then 1 - (places : Int) else -(places : Int)

/-- The positive numbers that round to a double, in quarters of its unit: from
`low` to `high` around `middle`, with the ends if `closed`. -/
structure Neighbourhood where
  low : Nat
  middle : Nat
  high : Nat
  closed : Bool

/-- The neighbourhood of a double. It reaches half a unit to both sides, but only
a quarter down from a power of two, where the units below are half as large. -/
def neighbourhood (double : Double) : Neighbourhood :=
  let atPower := double.mantissa = Nat.pow 2 52 ∧ leastExponent < double.exponent
  { low := 4 * double.mantissa - (if atPower then 1 else 2)
    middle := 4 * double.mantissa
    high := 4 * double.mantissa + 2
    closed := double.mantissa % 2 = 0 }

/-- A decimal number `digits * 10 ^ place` and quarters of a unit `2 ^ exponent`
can be compared once both are multiplied by these factors. -/
def commonScale (place exponent : Int) : Nat × Nat :=
  (Nat.pow 10 place.toNat * Nat.pow 2 (-(exponent - 2)).toNat,
    Nat.pow 10 (-place).toNat * Nat.pow 2 (exponent - 2).toNat)

/-- The nearest decimal number of the neighbourhood with its last digit at the
given place, if there is one; a tie goes to the even digit. -/
def nearestAt? (double : Double) (place : Int) : Option Nat :=
  let around := double.neighbourhood
  let (ten, two) := commonScale place double.exponent
  let middle := around.middle * two
  let inside (digits : Nat) :=
    let scaled := digits * ten
    if around.closed then around.low * two ≤ scaled ∧ scaled ≤ around.high * two
    else around.low * two < scaled ∧ scaled < around.high * two
  let below := middle / ten
  let above := below + 1
  if inside below then
    if inside above then
      let nearer := divideToEven middle ten
      some nearer
    else some below
  else if inside above then some above else none

/-- The nearest decimal number of the fewest digits, looking at up to `tries`
places from `place` downwards. -/
def shortestFrom (double : Double) : (tries : Nat) → (place : Int) → Nat × Int
  | 0, place => (0, place)
  | tries + 1, place =>
    match nearestAt? double place with
    | some digits => (digits, place)
    | none => shortestFrom double tries (place - 1)

/-- Digits without the zeros at their end. -/
def trimZeros (digits : List Char) : List Char :=
  match (digits.reverse.dropWhile (· == '0')).reverse with
  | [] => ['0']
  | kept => kept

/-- The digits of a positive double, with the exponent of the first. -/
def shortest (double : Double) : List Char × Int :=
  let (dividend, divisor) := double.quotient
  let first := decimalExponent dividend divisor
  let (digits, place) := shortestFrom double 18 first
  let written := Nat.toDigits 10 digits
  (trimZeros written, place + written.length - 1)

/-! ## Layout -/

/-- Exponents of the first digit from here on are written with all places. -/
def leastPositional : Int := -5

/-- Exponents of the first digit up to here are written with all places. -/
def greatestPositional : Int := 15

/-- Digits with all their places, and at least one on each side of the point. -/
def positional (digits : List Char) (exponent : Int) : List Char :=
  if exponent < 0 then
    '0' :: '.' :: List.replicate (-exponent - 1).toNat '0' ++ digits
  else
    let whole := exponent.toNat + 1
    let padded := digits ++ List.replicate (whole - digits.length) '0'
    let fraction := padded.drop whole
    padded.take whole ++ '.' :: (if fraction.isEmpty then ['0'] else fraction)

/-- Digits with a point after the first, if there are more, and an exponent with
its sign. -/
def scientific (digits : List Char) (exponent : Int) : List Char :=
  let mantissa := match digits with
    | first :: second :: rest => first :: '.' :: second :: rest
    | digits => digits
  mantissa ++ 'e' :: (if exponent < 0 then '-' else '+') :: Nat.toDigits 10 exponent.natAbs

/-- The text of a double: the fewest digits that still name it. -/
def toText (double : Double) : String :=
  let absolute :=
    if double.mantissa = 0 then ['0', '.', '0']
    else
      let (digits, exponent) := double.shortest
      if leastPositional ≤ exponent ∧ exponent ≤ greatestPositional then
        positional digits exponent
      else scientific digits exponent
  String.ofList (if double.negative then '-' :: absolute else absolute)

end Double

end RuleTree
