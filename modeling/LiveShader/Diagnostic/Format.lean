import LiveShader.Text.Blank
import LiveShader.Text.Digit

/-!
# Formats of compiler diagnostics

A compiler names the line it complains about in one of two formats. `parse?` splits a
line of its output around that number, or finds that there is none. Digits of every
script end a match, but only an ASCII number below 2^32 is a line number.
-/

namespace LiveShader

/-- The shapes of diagnostics: `unit(line)rest`, or `SEVERITY: unit:line rest` with an
optional severity. -/
inductive DiagnosticFormat where
  | paren
  | colon
deriving DecidableEq

/-- One line of compiler output around its line number: the `lead` in front of the
location, the `rest` behind it. -/
structure Complaint where
  lead : String
  line : Nat
  rest : String
deriving DecidableEq

namespace DiagnosticFormat

/-- The name of a format. -/
def name : DiagnosticFormat → String
  | .paren => "paren"
  | .colon => "colon"

/-- The format with a name. -/
def ofName? : String → Option DiagnosticFormat
  | "paren" => some .paren
  | "colon" => some .colon
  | _ => none

/-- A character of the unit name in front of a parenthesis. -/
def isUnitCharacter (character : Char) : Bool :=
  !Text.isBlank character && character != '(' && character != ')'

/-- An ASCII letter. -/
def isLetter (character : Char) : Bool :=
  ('a' ≤ character && character ≤ 'z') || ('A' ≤ character && character ≤ 'Z')

/-- Blanks, a unit name that may be empty, then the number in parentheses. -/
def parseParen? (raw : List Char) : Option Complaint :=
  match (raw.dropWhile Text.isBlank).dropWhile isUnitCharacter with
  | '(' :: inside =>
    match inside.dropWhile Text.isDecimalDigit with
    | ')' :: rest =>
      (Text.lineNumber? (inside.takeWhile Text.isDecimalDigit)).map fun line =>
        ⟨"", line, String.ofList rest⟩
    | _ => none
  | _ => none

/-- The severity with its colon and the blanks after it, at the start of a text, and
what follows; nothing if no severity is there. -/
def takeSeverity (text : List Char) : List Char × List Char :=
  match text.takeWhile isLetter, text.dropWhile isLetter with
  | [], _ => ([], text)
  | letters, ':' :: rest =>
    (letters ++ ':' :: rest.takeWhile Text.isBlank, rest.dropWhile Text.isBlank)
  | _, _ => ([], text)

/-- Blanks, a severity that may be missing, the unit number, a colon, then the number
of the line. -/
def parseColon? (raw : List Char) : Option Complaint :=
  let blanks := raw.takeWhile Text.isBlank
  let (severity, located) := takeSeverity (raw.dropWhile Text.isBlank)
  if (located.takeWhile Text.isDecimalDigit).isEmpty then none
  else
    match located.dropWhile Text.isDecimalDigit with
    | ':' :: numbered =>
      (Text.lineNumber? (numbered.takeWhile Text.isDecimalDigit)).map fun line =>
        ⟨String.ofList (blanks ++ severity), line,
          String.ofList (numbered.dropWhile Text.isDecimalDigit)⟩
    | _ => none

/-- A line of compiler output split around its line number, if it has one. -/
def parse? (format : DiagnosticFormat) (raw : String) : Option Complaint :=
  match format with
  | .paren => parseParen? raw.toList
  | .colon => parseColon? raw.toList

end DiagnosticFormat

end LiveShader
