/-!
# Binary floating point

The finite numbers of the 64-bit binary format, and the one nearest to a decimal. All
arithmetic is exact, on naturals, so that no step rounds but the one that is meant to.
-/

namespace LiveShader.Decimal

/-- A decimal: `digits` times ten to the `exponent`. -/
structure Literal where
  negative : Bool
  digits : Nat
  exponent : Int
deriving DecidableEq

/-- A finite number of the 64-bit binary format: `mantissa` times two to the
`exponent`. -/
structure Binary where
  negative : Bool
  mantissa : Nat
  exponent : Int
deriving DecidableEq

/-- How many mantissas a binade has: two to the 52. -/
def binade : Nat := 4503599627370496

/-- The smallest exponent. -/
def leastExponent : Int := -1074

/-- The largest exponent. -/
def greatestExponent : Int := 971

/-- A quotient, rounded to the nearest natural, a tie to the even one. -/
def roundDivide (numerator denominator : Nat) : Nat :=
  let quotient := numerator / denominator
  let twice := 2 * (numerator % denominator)
  if twice < denominator then quotient
  else if denominator < twice then quotient + 1
  else quotient + quotient % 2

/-- The fraction `numerator / denominator`, divided by `base` to the `exponent`, as
numerator and denominator. -/
def scaleDown (base : Nat) (exponent : Int) (numerator denominator : Nat) : Nat × Nat :=
  (numerator * Nat.pow base (-exponent).toNat, denominator * Nat.pow base exponent.toNat)

/-- The number nearest to a fraction that is not zero, a tie to the even mantissa, if it
is in range. -/
def nearest? (negative : Bool) (numerator denominator : Nat) : Option Binary :=
  let guess : Int := (numerator.log2 : Int) - denominator.log2 - 52
  let (scaled, unit) := scaleDown 2 guess numerator denominator
  let fitted := if scaled / unit < binade then guess - 1 else guess
  let exponent := max fitted leastExponent
  let (scaled, unit) := scaleDown 2 exponent numerator denominator
  let mantissa := roundDivide scaled unit
  let (mantissa, exponent) :=
    if mantissa = 2 * binade then (binade, exponent + 1) else (mantissa, exponent)
  if greatestExponent < exponent then none else some ⟨negative, mantissa, exponent⟩

/-- How many decimal digits a number has. -/
def digitCount (value : Nat) : Nat :=
  (Nat.toDigits 10 value).length

/-- The number nearest to a decimal, if it is in range. Decimals far out of range are
told by their size alone. -/
def Literal.nearest? (decimal : Literal) : Option Binary :=
  let size := decimal.exponent + digitCount decimal.digits
  if decimal.digits = 0 ∨ size < -400 then some ⟨decimal.negative, 0, leastExponent⟩
  else if 400 < size then none
  else
    let (numerator, denominator) := scaleDown 10 (-decimal.exponent) decimal.digits 1
    Decimal.nearest? decimal.negative numerator denominator

/-- Digits read as one number. -/
def value (digits : List Char) : Nat :=
  digits.foldl (fun value digit => value * 10 + (digit.toNat - 48)) 0

/-- The exponent behind a mantissa: nothing, or a mark, a sign that may be missing, and
digits. -/
def readExponent? : List Char → Option Int
  | [] => some 0
  | mark :: '-' :: digits =>
    if (mark = 'e' ∨ mark = 'E') ∧ digits ≠ [] ∧ digits.all Char.isDigit then
      some (-(value digits : Int))
    else none
  | mark :: '+' :: digits =>
    if (mark = 'e' ∨ mark = 'E') ∧ digits ≠ [] ∧ digits.all Char.isDigit then
      some (value digits)
    else none
  | mark :: digits =>
    if (mark = 'e' ∨ mark = 'E') ∧ digits ≠ [] ∧ digits.all Char.isDigit then
      some (value digits)
    else none

/-- A decimal without its sign: digits with at most one point among or around them,
then an exponent that may be missing. -/
def readUnsigned? (negative : Bool) (text : List Char) : Option Literal :=
  let whole := text.takeWhile Char.isDigit
  let (fraction, rest) :=
    match text.dropWhile Char.isDigit with
    | '.' :: rest => (rest.takeWhile Char.isDigit, rest.dropWhile Char.isDigit)
    | rest => ([], rest)
  if whole ++ fraction = [] then none
  else
    (readExponent? rest).map fun exponent =>
      ⟨negative, value (whole ++ fraction), exponent - fraction.length⟩

/-- The decimal that a text writes, if it writes one. -/
def Literal.read? : List Char → Option Literal
  | '-' :: text => readUnsigned? true text
  | '+' :: text => readUnsigned? false text
  | text => readUnsigned? false text

end LiveShader.Decimal
