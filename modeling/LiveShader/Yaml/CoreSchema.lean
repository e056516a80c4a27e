import LiveShader.Decimal.Binary
import LiveShader.Yaml.Document

/-!
# The core schema

What a plain scalar means: nothing, a truth value, a number, or its text. A run of digits
that begins with a zero is text, not a number.
-/

namespace LiveShader.Yaml

/-- A number with a point. -/
inductive FloatNumber where
  | finite (number : Decimal.Binary)
  | infinite (negative : Bool)
  | notANumber
deriving DecidableEq

/-- What a scalar means. -/
inductive Value where
  | null
  | boolean (value : Bool)
  | integer (value : Int)
  | float (value : FloatNumber)
  | text (value : String)
deriving DecidableEq

namespace CoreSchema

/-- The text means nothing. -/
def isNull (text : String) : Bool :=
  text = "null" || text = "Null" || text = "NULL" || text = "~"

/-- The truth value that a text means. -/
def boolean? (text : String) : Option Bool :=
  if text = "true" ∨ text = "True" ∨ text = "TRUE" then some true
  else if text = "false" ∨ text = "False" ∨ text = "FALSE" then some false
  else none

/-- The value of a digit in a base. -/
def digitValue? (base : Nat) (character : Char) : Option Nat :=
  (hexValue? character).filter (· < base)

/-- The value of digits in a base. There has to be one. -/
def digits? (base : Nat) (digits : List Char) : Option Nat :=
  if digits = [] then none
  else digits.foldlM (fun value digit => (digitValue? base digit).map (value * base + ·)) 0

/-- Digits that begin with a zero which is not all of the number, behind a sign that may
be missing. -/
def hasLeadingZero (text : List Char) : Bool :=
  let digits := match text with
    | '-' :: digits => digits
    | '+' :: digits => digits
    | digits => digits
  match digits with
  | '0' :: next :: rest => (next :: rest).all Char.isDigit
  | _ => false

/-- The number of digits in base sixteen, eight or two, behind the mark of the base. -/
def marked? : List Char → Option Nat
  | '0' :: 'x' :: digits => digits? 16 digits
  | '0' :: 'o' :: digits => digits? 8 digits
  | '0' :: 'b' :: digits => digits? 2 digits
  | _ => none

/-- The natural number that a text means, if it is not above `greatest`. -/
def natural? (greatest : Nat) (text : String) : Option Nat :=
  let unsigned := match text.toList with
    | '+' :: rest => rest
    | rest => rest
  ((marked? unsigned).filter (· ≤ greatest)).or
    (if hasLeadingZero text.toList then none
    else (digits? 10 unsigned).filter (· ≤ greatest))

/-- The number with a minus sign that a text means, if its size is not above `greatest`. -/
def negative? (greatest : Nat) (text : String) : Option Int :=
  match text.toList with
  | '-' :: unsigned =>
    (((marked? unsigned).filter (· ≤ greatest)).or
      (if hasLeadingZero unsigned then none
      else (digits? 10 unsigned).filter (· ≤ greatest))).map fun size => -(size : Int)
  | _ => none

/-- The greatest number of 64 bits. -/
def greatest64 : Nat := 18446744073709551615

/-- The size of the least number of 64 bits with a sign. -/
def least64 : Nat := 9223372036854775808

/-- The greatest number of 128 bits. -/
def greatest128 : Nat := 340282366920938463463374607431768211455

/-- The size of the least number of 128 bits with a sign. -/
def least128 : Nat := 170141183460469231731687303715884105728

/-- The integer that a text means. Up to 128 bits count. -/
def integer? (text : String) : Option Int :=
  ((natural? greatest128 text).map Int.ofNat).or (negative? least128 text)

/-- The number with a point that a text means. What is out of range is none. -/
def float? (text : String) : Option FloatNumber :=
  let unsigned := match text.toList with
    | '+' :: rest => rest
    | rest => rest
  let hasTwoSigns := text.startsWith "+" && unsigned.head?.any fun c => c = '+' || c = '-'
  let word := String.ofList unsigned
  if hasTwoSigns then none
  else if word = ".inf" ∨ word = ".Inf" ∨ word = ".INF" then some (.infinite false)
  else if text = "-.inf" ∨ text = "-.Inf" ∨ text = "-.INF" then some (.infinite true)
  else if text = ".nan" ∨ text = ".NaN" ∨ text = ".NAN" then some .notANumber
  else
    ((Decimal.Literal.read? unsigned).bind Decimal.Literal.nearest?).map .finite

/-- What a plain text means. -/
def valueOf (text : String) : Value :=
  if text = "" ∨ isNull text then .null
  else
    match boolean? text, integer? text with
    | some value, _ => .boolean value
    | none, some value => .integer value
    | none, none =>
      if hasLeadingZero text.toList then .text text
      else (float? text).elim (.text text) .float

/-- The tags of the schema. -/
def tagOf (name : String) : String :=
  "tag:yaml.org,2002:" ++ name

end CoreSchema

/-- Why a scalar has no meaning: its tag promises another one than its text has. -/
structure BrokenPromise where
  text : String
  promised : String
deriving DecidableEq

/-- What a scalar means. A tag of the schema decides, a tag of the document's own says
nothing about plain text. -/
def Scalar.value (scalar : Scalar) : Except BrokenPromise Value :=
  let text := scalar.text
  let meant (value : Option Value) (promised : String) : Except BrokenPromise Value :=
    value.elim (.error ⟨text, promised⟩) .ok
  match scalar.tag with
  | none => .ok (if scalar.style = .plain then CoreSchema.valueOf text else .text text)
  | some tag =>
    if tag = CoreSchema.tagOf "bool" then
      meant ((CoreSchema.boolean? text).map .boolean) "a boolean"
    else if tag = CoreSchema.tagOf "int" then
      meant ((CoreSchema.integer? text).map .integer) "an integer"
    else if tag = CoreSchema.tagOf "float" then
      meant ((CoreSchema.float? text).map .float) "a float"
    else if tag = CoreSchema.tagOf "null" then
      meant (if CoreSchema.isNull text then some .null else none) "null"
    else if tag.startsWith "!" ∧ scalar.style = .plain then .ok (CoreSchema.valueOf text)
    else .ok (.text text)

/-- The name of a tag of the document's own. -/
def localTag? (tag : Option String) : Option String :=
  match tag.map String.toList with
  | some ('!' :: name) => some (String.ofList name)
  | _ => none

end LiveShader.Yaml
