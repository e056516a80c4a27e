import LiveShader.Decimal.Shortest
import LiveShader.Text.Quoted
import LiveShader.Yaml.CoreSchema

/-!
# Why settings are rejected

The text may not be YAML, or not mean what settings are made of. A mistake is blamed on
the innermost part of the document that was being read.
-/

namespace LiveShader.Settings

open Yaml

/-- What stands where something else was expected. -/
inductive Found where
  | scalar (value : Value)
  | sequence
  | mapping
deriving DecidableEq

/-- A number with a point as it is shown. -/
def floatText : FloatNumber → String
  | .finite number => number.shortest.positional
  | .infinite false => "inf"
  | .infinite true => "-inf"
  | .notANumber => "NaN"

/-- An integer as it is shown: one beyond 64 bits is shown as what it takes more. -/
def integerText (value : Int) : String :=
  let shown := "integer `" ++ toString value ++ "`"
  if (CoreSchema.greatest64 : Int) < value then shown ++ " as u128"
  else if value < -(CoreSchema.least64 : Int) then shown ++ " as i128"
  else shown

/-- The description of what stands somewhere. -/
def Found.text : Found → String
  | .scalar .null => "unit value"
  | .scalar (.boolean true) => "boolean `true`"
  | .scalar (.boolean false) => "boolean `false`"
  | .scalar (.integer value) => integerText value
  | .scalar (.float value) => "floating point `" ++ floatText value ++ "`"
  | .scalar (.text value) => "string " ++ Text.quoted value
  | .sequence => "sequence"
  | .mapping => "map"

/-- What is wrong with a part of a document. -/
inductive Mistake where
  | wrongType (found : Found) (expected : String)
  | wrongText (text : String) (expected : String)
  | unknownField (name : String) (known : List String)
  | unknownChoice (name : String) (known : List String)
  | duplicateField (name : String)
deriving DecidableEq

/-- A name between grave accents. -/
def ticked (name : String) : String :=
  "`" ++ name ++ "`"

/-- The names that would have been right. -/
def alternatives : List String → String
  | [only] => ticked only
  | [first, second] => ticked first ++ " or " ++ ticked second
  | names => "one of " ++ ", ".intercalate (names.map ticked)

/-- The wording of a mistake. -/
def Mistake.text : Mistake → String
  | .wrongType found expected => "invalid type: " ++ found.text ++ ", expected " ++ expected
  | .wrongText text expected =>
    "invalid value: string " ++ Text.quoted text ++ ", expected " ++ expected
  | .unknownField name known =>
    "unknown field " ++ ticked name ++ ", expected " ++ alternatives known
  | .unknownChoice name known =>
    "unknown variant " ++ ticked name ++ ", expected " ++ alternatives known
  | .duplicateField name => "duplicate field " ++ ticked name

/-- The fields on the way down to a part of a document, as one text; none for the
document itself. -/
abbrev Trail := Option String

/-- The trail of a field. A key that is not written out has no name. -/
def fieldTrail (trail : Trail) (key : Option String) : Trail :=
  some (trail.elim "" (· ++ ".") ++ key.getD "?")

/-- Why settings are rejected. -/
inductive Rejection where
  | broken (flaw : Flaw)
  | mistaken (mistake : Mistake) (place : Option (Mark × Trail))
  | incomplete
  | severalDocuments
deriving DecidableEq

namespace Rejection

/-- Blame a mistake on a part of a document, unless it has been blamed on one. -/
def blame (mark : Mark) (trail : Trail) : Rejection → Rejection
  | .mistaken mistake none => .mistaken mistake (some (mark, trail))
  | rejection => rejection

/-- Where the text is wrong, if that can be said. -/
def mark? : Rejection → Option Mark
  | .broken flaw => some flaw.mark
  | .mistaken _ place => place.map Prod.fst
  | .incomplete => none
  | .severalDocuments => none

/-- Where the text is wrong, in words. -/
def location (rejection : Rejection) : String :=
  match rejection.mark? with
  | some mark => "line " ++ toString (mark.line + 1) ++ ", column " ++ toString (mark.column + 1)
  | none => "unknown location"

/-- The wording of a rejection. -/
def text : Rejection → String
  | .broken flaw => flaw.message
  | .mistaken mistake none => mistake.text
  | .mistaken mistake (some (mark, trail)) =>
    trail.elim "" (· ++ ": ") ++ mistake.text ++
      if Flaw.isInside mark then " at " ++ mark.text else ""
  | .incomplete => "EOF while parsing a value"
  | .severalDocuments =>
    "deserializing from YAML containing more than one document is not supported"

end Rejection

end LiveShader.Settings
