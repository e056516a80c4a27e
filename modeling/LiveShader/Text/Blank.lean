import LiveShader.Text.Split

/-!
# Blank characters

Blanks are the 25 characters with the Unicode property White_Space. The
separators U+001C to U+001F and the zero-width space are not among them.
-/

namespace LiveShader.Text

/-- The character has the property White_Space. -/
def isBlank (character : Char) : Bool :=
  let code := character.toNat
  (0x09 ≤ code && code ≤ 0x0D) || code == 0x20 || code == 0x85 || code == 0xA0 ||
    code == 0x1680 || (0x2000 ≤ code && code ≤ 0x200A) || code == 0x2028 || code == 0x2029 ||
    code == 0x202F || code == 0x205F || code == 0x3000

/-- A text without the blanks at its start. -/
def trimStart (text : String) : String :=
  String.ofList (text.toList.dropWhile isBlank)

/-- A text without the blanks at its end. -/
def trimEnd (text : String) : String :=
  String.ofList (dropEndWhile isBlank text.toList)

/-- A text without the blanks at either end. -/
def trim (text : String) : String :=
  trimEnd (trimStart text)

/-- A text of blanks alone, the empty one included. -/
def allBlank (text : String) : Bool :=
  text.toList.all isBlank

end LiveShader.Text
