import LiveShader.Decimal.Binary

/-!
# The shortest decimal of a binary number

A binary number is shown by the fewest decimal digits that read back as it, and of
those by the ones nearest to it. `shortest` looks at ever finer decimal grids: the
first one that has a point among the reals which round to the number decides.
-/

namespace LiveShader.Decimal

/-- The reals that round to a number, over a common denominator: the least, the number
itself and the greatest of them. The ends belong to them if `closed` holds. -/
structure Basin where
  least : Nat
  centre : Nat
  greatest : Nat
  denominator : Nat
  closed : Bool

/-- The reals that round to a number. The gap below the first mantissa of a binade is
half as wide. -/
def Binary.basin (number : Binary) : Basin :=
  let atEdge := number.mantissa = binade ∧ leastExponent < number.exponent
  let below := if atEdge then 1 else 2
  let (factor, denominator) := scaleDown 2 (2 - number.exponent) 1 1
  { least := (4 * number.mantissa - below) * factor
    centre := 4 * number.mantissa * factor
    greatest := (4 * number.mantissa + 2) * factor
    denominator := denominator
    closed := number.mantissa % 2 = 0 }

/-- The fraction lies in the basin. -/
def Basin.contains (basin : Basin) (numerator denominator : Nat) : Bool :=
  let point := numerator * basin.denominator
  let least := basin.least * denominator
  let greatest := basin.greatest * denominator
  if basin.closed then least ≤ point && point ≤ greatest else least < point && point < greatest

/-- The point of the grid of step ten to the `exponent` that is nearest to the centre of
the basin, among those in the basin. -/
def Basin.pointOnGrid? (basin : Basin) (exponent : Int) : Option Nat :=
  let (scaled, unit) := scaleDown 10 exponent basin.centre basin.denominator
  let lower := scaled / unit
  let isIn (point : Nat) : Bool :=
    let (numerator, denominator) := scaleDown 10 (-exponent) point 1
    basin.contains numerator denominator
  match isIn lower, isIn (lower + 1) with
  | true, true => some (roundDivide scaled unit)
  | true, false => some lower
  | false, true => some (lower + 1)
  | false, false => none

/-- The first point found on at most so many grids, each ten times finer than the one
before. -/
def Basin.search (basin : Basin) : Nat → Int → Nat × Int
  | 0, exponent => (0, exponent)
  | grids + 1, exponent =>
    match basin.pointOnGrid? exponent with
    | some point => (point, exponent)
    | none => basin.search grids (exponent - 1)

/-- The shortest decimal that reads back as a number. Seventeen digits are always
enough. -/
def Binary.shortest (number : Binary) : Literal :=
  if number.mantissa = 0 then ⟨number.negative, 0, 0⟩
  else
    let basin := number.basin
    let size : Int := (digitCount basin.centre : Int) - digitCount basin.denominator
    let (digits, exponent) := basin.search 20 (size + 1)
    ⟨number.negative, digits, exponent⟩

/-- A decimal written out with a point, and at least one digit on each side of it. -/
def Literal.positional (decimal : Literal) : String :=
  let sign := if decimal.negative then ['-'] else []
  let digits := Nat.toDigits 10 decimal.digits ++ List.replicate decimal.exponent.toNat '0'
  let places := (-decimal.exponent).toNat
  let padded := List.replicate (places + 1 - digits.length) '0' ++ digits
  let whole := padded.take (padded.length - places)
  let fraction := padded.drop (padded.length - places)
  String.ofList (sign ++ whole ++ '.' :: (if fraction = [] then ['0'] else fraction))

end LiveShader.Decimal
