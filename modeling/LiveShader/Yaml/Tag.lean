import LiveShader.Yaml.Scalar.Flow
import LiveShader.Yaml.Token

/-!
# Names, tags and directives

The tokens that begin with `&`, `*`, `!` and `%`. A tag is a handle and a suffix; which
text the handle stands for is said by the directives of the document.
-/

namespace LiveShader.Yaml

/-- A character that tags are made of. Flow indicators are left to tags in brackets. -/
def isUriCharacter (bracketed : Bool) (character : Char) : Bool :=
  isWordCharacter character || ";/?:@&=+$.%!~*'()".toList.contains character ||
    (bracketed && ",[]".toList.contains character)

/-- How many bytes follow the first byte of an encoded character, and what the first
byte says of its code. -/
def leadingByte? (byte : Nat) : Option (Nat × Nat) :=
  if byte < 0x80 then some (0, byte)
  else if 0xC0 ≤ byte ∧ byte < 0xE0 then some (1, byte % 0x20)
  else if 0xE0 ≤ byte ∧ byte < 0xF0 then some (2, byte % 0x10)
  else if 0xF0 ≤ byte ∧ byte < 0xF8 then some (3, byte % 0x08)
  else none

/-- A byte written as a percent sign and two hexadecimal digits. -/
def escapedByte? (cursor : Cursor) : Option Nat :=
  match cursor.rest with
  | '%' :: high :: low :: _ => hexNumber? [high, low]
  | _ => none

/-- The character that escaped bytes encode, and how many bytes there are. -/
def escapedCharacter (cursor : Cursor) : Except Problem (Char × Nat) :=
  match escapedByte? cursor with
  | none => .error .uriOctet
  | some first =>
    match leadingByte? first with
    | none => .error .uriLeading
    | some (more, high) =>
      let step (code : Nat) (index : Nat) : Except Problem Nat :=
        match escapedByte? (cursor.drop (3 * (index + 1))) with
        | none => .error .uriOctet
        | some byte =>
          if 0x80 ≤ byte ∧ byte < 0xC0 then .ok (code * 64 + byte % 64)
          else .error .uriTrailing
      ((List.range more).foldlM step high).map fun code => (Char.ofNat code, more + 1)

/-- One step through the characters of a tag. -/
def uriStep (bracketed : Bool) (activity : Activity) (start : Mark) (text : List Char)
    (cursor : Cursor) : Except Flaw (Option (List Char × Nat)) :=
  match cursor.rest with
  | [] => .ok none
  | character :: _ =>
    if !isUriCharacter bracketed character then .ok none
    else if character = '%' then
      match escapedCharacter cursor with
      | .ok (meant, count) => .ok (some (text ++ [meant], 3 * count - 1))
      | .error problem => .error (.during activity start problem cursor.mark)
    else .ok (some (text ++ [character], 0))

/-- Read the characters of a tag behind a head that has been read. -/
def readUri (bracketed : Bool) (activity : Activity) (start : Mark) (head : List Char)
    (cursor : Cursor) : Except Flaw (List Char × Cursor) := do
  let (text, after) ← cursor.fold (uriStep bracketed activity start) (head.drop 1)
  if head = [] ∧ text = [] then .error (.during activity start .tagUri after.mark)
  else .ok (text, after)

/-- Read a handle: an exclamation mark, then perhaps a word and a second mark. Without
the second mark it is only the head of a tag. -/
def readHandle (cursor : Cursor) : List Char × Cursor :=
  let (word, after) := cursor.advance.takeWhile isWordCharacter
  if after.rest.head? = some '!' then ('!' :: word ++ ['!'], after.advance)
  else ('!' :: word, after)

/-- The handle has a second exclamation mark. -/
def isClosedHandle (handle : List Char) : Bool :=
  1 < handle.length && handle.getLast? = some '!'

/-- Read the handle and the suffix of a tag. -/
def readTagParts (start : Mark) (cursor : Cursor) :
    Except Flaw (List Char × List Char × Cursor) := do
  if cursor.advance.rest.head? = some '<' then
    let (suffix, after) ← readUri true .tag start [] (cursor.drop 2)
    if after.rest.head? = some '>' then .ok ([], suffix, after.advance)
    else .error (.during .tag start .tagClose after.mark)
  else
    let (handle, after) := readHandle cursor
    if isClosedHandle handle then
      let (suffix, after) ← readUri false .tag start [] after
      .ok (handle, suffix, after)
    else
      let (suffix, after) ← readUri false .tag start handle after
      if suffix = [] then .ok ([], ['!'], after) else .ok (['!'], suffix, after)

/-- Read a tag. A blank ends it, or a comma in a flow collection. -/
def readTag (inFlow : Bool) (cursor : Cursor) : Except Flaw (TokenKind × Cursor) := do
  let start := cursor.mark
  let (handle, suffix, after) ← readTagParts start cursor
  if startsBlank after.rest ∨ (inFlow ∧ after.rest.head? = some ',') then
    .ok (.tag (String.ofList handle) (String.ofList suffix), after)
  else .error (.during .tag start .tagEnd after.mark)

/-- Read the name of an anchor or an alias. -/
def readName (activity : Activity) (cursor : Cursor) : Except Flaw (String × Cursor) :=
  let (name, after) := cursor.advance.takeWhile isWordCharacter
  let isEnded := startsBlank after.rest || after.rest.head?.any ("?:,]\x7d%@`".toList.contains ·)
  if name ≠ [] ∧ isEnded then .ok (String.ofList name, after)
  else .error (.during activity cursor.mark .anchorName after.mark)

/-- Read a number of a version. -/
def readVersionNumber (start : Mark) (cursor : Cursor) : Except Flaw (Nat × Cursor) :=
  let (digits, after) := cursor.takeWhile Char.isDigit
  if digits = [] then .error (.during .versionDirective start .versionNumber after.mark)
  else if 9 < digits.length then
    .error (.during .versionDirective start .versionLength (cursor.drop 9).mark)
  else .ok (digits.foldl (fun value digit => value * 10 + (digit.toNat - 48)) 0, after)

/-- Read the version behind `%YAML`. -/
def readVersion (start : Mark) (cursor : Cursor) : Except Flaw (TokenKind × Cursor) := do
  let (major, after) ← readVersionNumber start cursor.skipBlanks
  if after.rest.head? = some '.' then
    let (minor, after) ← readVersionNumber start after.advance
    .ok (.versionDirective major minor, after)
  else .error (.during .versionDirective start .versionDot after.mark)

/-- Read the handle behind `%TAG` and the text that it stands for. -/
def readTagMeaning (start : Mark) (cursor : Cursor) : Except Flaw (TokenKind × Cursor) := do
  let cursor := cursor.skipBlanks
  if cursor.rest.head? ≠ some '!' then .error (.during .tagDirective start .tagMark cursor.mark)
  else
    let (handle, after) := readHandle cursor
    if !isClosedHandle handle ∧ handle ≠ ['!'] then
      .error (.during .tagDirective start .tagMark after.mark)
    else if !after.rest.head?.any isBlank then
      .error (.during .tagDirective start .blank after.mark)
    else
      let (lead, after) ← readUri true .tagDirective start [] after.skipBlanks
      if startsBlank after.rest then
        .ok (.tagDirective (String.ofList handle) (String.ofList lead), after)
      else .error (.during .tagDirective start .tagEnd after.mark)

/-- Read a directive with its line: its token kind, the place behind its value, and the
cursor behind its line. -/
def readDirective (cursor : Cursor) : Except Flaw (TokenKind × Mark × Cursor) := do
  let start := cursor.mark
  let (name, after) := cursor.advance.takeWhile isWordCharacter
  if name = [] then .error (.during .directive start .directiveName after.mark)
  else if !startsBlank after.rest then
    .error (.during .directive start .directiveNameEnd after.mark)
  else
    let (kind, after) ←
      if name = "YAML".toList then readVersion start after
      else if name = "TAG".toList then readTagMeaning start after
      else .error (.during .directive start .unknownDirective after.mark)
    match after.skipRestOfLine? with
    | some next => .ok (kind, after.mark, next)
    | none => .error (.during .directive start .lineEnd after.skipBlanks.mark)

end LiveShader.Yaml
