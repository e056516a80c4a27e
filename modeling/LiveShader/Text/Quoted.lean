import LiveShader.Text.Printable

/-!
# Quoted text

Text between double quotes, so that a reader sees each character of it: quote,
backslash and the common controls have short escapes, other characters without a shape
of their own are written by their code.
-/

namespace LiveShader.Text

/-- A code point in hexadecimal, without leading zeros. -/
def hexadecimal (code : Nat) : List Char :=
  Nat.toDigits 16 code

/-- A character as it is written between quotes. -/
def quotedCharacter (character : Char) : List Char :=
  match character with
  | '"' => ['\\', '"']
  | '\\' => ['\\', '\\']
  | '\n' => ['\\', 'n']
  | '\r' => ['\\', 'r']
  | '\t' => ['\\', 't']
  | '\x00' => ['\\', '0']
  | _ =>
    if isPrintable character then [character]
    else ['\\', 'u', '\x7b'] ++ hexadecimal character.toNat ++ ['\x7d']

/-- A text between quotes. -/
def quoted (text : String) : String :=
  String.ofList ('"' :: text.toList.flatMap quotedCharacter ++ ['"'])

end LiveShader.Text
