import LiveShader.Yaml.Flaw

/-!
# Scalars that fold their lines

Plain and quoted scalars may go over several lines. Blanks within a line are kept, the
ones around a line ending are not. A single line ending becomes a space; of several the
first one goes and the others stay.
-/

namespace LiveShader.Yaml

/-- A scalar while it is read: its text so far, the last character first, and the blanks
and line endings behind it, of which it is not yet known what they become. `broken` says
that a line ending was among them. -/
structure Folding where
  reversed : List Char
  blanks : List Char
  broken : Bool
  firstBreak : List Char
  laterBreaks : List Char

namespace Folding

/-- Nothing read yet. -/
def empty : Folding := ⟨[], [], false, [], []⟩

/-- Read a blank. -/
def blank (folding : Folding) (character : Char) : Folding :=
  if folding.broken then folding else { folding with blanks := folding.blanks ++ [character] }

/-- Read a line ending. -/
def lineBreak (folding : Folding) (character : Char) : Folding :=
  if folding.broken then
    { folding with laterBreaks := folding.laterBreaks ++ [meaningOfBreak character] }
  else
    { folding with blanks := [], broken := true, firstBreak := [meaningOfBreak character] }

/-- What the blanks and line endings at the end become when text follows. -/
def gap (folding : Folding) : List Char :=
  if !folding.broken then folding.blanks
  else if folding.firstBreak = ['\n'] then
    if folding.laterBreaks = [] then [' '] else folding.laterBreaks
  else folding.firstBreak ++ folding.laterBreaks

/-- Settle the blanks and line endings at the end. -/
def settle (folding : Folding) : Folding :=
  { empty with reversed := folding.gap.reverse ++ folding.reversed }

/-- Read a character of the text. -/
def push (folding : Folding) (character : Char) : Folding :=
  let settled := folding.settle
  { settled with reversed := character :: settled.reversed }

/-- Read a line ending that is escaped: it and the blanks after it go. -/
def escapedBreak (folding : Folding) : Folding :=
  { folding.settle with broken := true }

/-- Blanks or line endings stand at the end. -/
def atGap (folding : Folding) : Bool :=
  folding.broken || !folding.blanks.isEmpty

/-- The text that is settled. -/
def text (folding : Folding) : List Char :=
  folding.reversed.reverse

end Folding

/-- One step through a plain scalar that began at `start`. It ends at a comment, at `: `,
at a line that is not indented by `indent`, and within flow collections at their
indicators. -/
def plainStep (inFlow : Bool) (indent : Int) (start : Mark) (folding : Folding)
    (cursor : Cursor) : Except Flaw (Option (Folding × Nat)) :=
  match cursor.rest with
  | [] => .ok none
  | character :: rest =>
    if isBlank character then
      if folding.broken ∧ cursor.mark.column < indent ∧ character = '\t' then
        .error (.during .plainScalar start .tabIndentation cursor.mark)
      else .ok (some (folding.blank character, 0))
    else if isBreak character then .ok (some (folding.lineBreak character, 0))
    else if cursor.atDocumentBoundary then .ok none
    else if folding.atGap ∧ character = '#' then .ok none
    else if folding.broken ∧ !inFlow ∧ cursor.mark.column < indent then .ok none
    else if inFlow ∧ character = ':' ∧ rest.head?.any (",?[]\x7b\x7d".toList.contains ·) then
      .error (.during .plainScalar start .unexpectedColon cursor.mark)
    else if character = ':' ∧ startsBlank rest then .ok none
    else if inFlow ∧ ",[]\x7b\x7d".toList.contains character then .ok none
    else .ok (some (folding.push character, 0))

/-- Read a plain scalar: its text, whether it ended behind a line ending, and the cursor
behind it. -/
def readPlain (inFlow : Bool) (indent : Int) (cursor : Cursor) :
    Except Flaw (List Char × Bool × Cursor) :=
  (cursor.fold (plainStep inFlow indent cursor.mark) Folding.empty).map fun (folding, after) =>
    (folding.text, folding.broken, after)

/-- The value of a hexadecimal digit. -/
def hexValue? (character : Char) : Option Nat :=
  if character.isDigit then some (character.toNat - 48)
  else if 'a' ≤ character ∧ character ≤ 'f' then some (character.toNat - 87)
  else if 'A' ≤ character ∧ character ≤ 'F' then some (character.toNat - 55)
  else none

/-- The value of hexadecimal digits. -/
def hexNumber? (digits : List Char) : Option Nat :=
  digits.foldlM (fun value digit => (hexValue? digit).map (value * 16 + ·)) 0

/-- The character that a letter behind a backslash stands for. -/
def shortEscape? : Char → Option Char
  | '0' => some '\x00'
  | 'a' => some '\x07'
  | 'b' => some '\x08'
  | 't' => some '\t'
  | '\t' => some '\t'
  | 'n' => some '\n'
  | 'v' => some '\x0b'
  | 'f' => some '\x0c'
  | 'r' => some '\r'
  | 'e' => some '\x1b'
  | ' ' => some ' '
  | '"' => some '"'
  | '/' => some '/'
  | '\\' => some '\\'
  | 'N' => some '\x85'
  | '_' => some '\xa0'
  | 'L' => some '\u2028'
  | 'P' => some '\u2029'
  | _ => none

/-- How many hexadecimal digits follow a letter behind a backslash. -/
def escapeDigits? : Char → Option Nat
  | 'x' => some 2
  | 'u' => some 4
  | 'U' => some 8
  | _ => none

/-- The character that an escape stands for, and how many characters it takes behind
the backslash. -/
def escape (letter : Char) (rest : List Char) : Except Problem (Char × Nat) :=
  match shortEscape? letter, escapeDigits? letter with
  | some character, _ => .ok (character, 1)
  | none, none => .error .unknownEscape
  | none, some count =>
    if rest.length < count then .error .hexDigits
    else
      match hexNumber? (rest.take count) with
      | none => .error .hexDigits
      | some code =>
        if code.isValidChar then .ok (Char.ofNat code, count + 1)
        else .error .invalidCode

/-- One step through a quoted scalar that began at `start`, up to its closing quote. -/
def quotedStep (double : Bool) (start : Mark) (folding : Folding) (cursor : Cursor) :
    Except Flaw (Option (Folding × Nat)) :=
  match cursor.rest with
  | [] => .error (.during .quotedScalar start .endOfStream cursor.mark)
  | character :: rest =>
    if isBlank character then .ok (some (folding.blank character, 0))
    else if isBreak character then .ok (some (folding.lineBreak character, 0))
    else if cursor.atDocumentBoundary then
      .error (.during .quotedScalar start .documentBoundary cursor.mark)
    else if double then
      if character = '"' then .ok none
      else if character = '\\' then
        match rest with
        | [] => .error (.during .escape start .unknownEscape cursor.mark)
        | letter :: following =>
          if isBreak letter then .ok (some (folding.escapedBreak, 1))
          else
            match escape letter following with
            | .ok (meant, count) => .ok (some (folding.push meant, count))
            | .error problem => .error (.during .escape start problem cursor.mark)
      else .ok (some (folding.push character, 0))
    else if character = '\'' then
      if rest.head? = some '\'' then .ok (some (folding.push '\'', 1)) else .ok none
    else .ok (some (folding.push character, 0))

/-- Read a quoted scalar: its text, and the cursor behind its closing quote. -/
def readQuoted (double : Bool) (cursor : Cursor) : Except Flaw (List Char × Cursor) :=
  (cursor.advance.fold (quotedStep double cursor.mark) Folding.empty).map fun (folding, after) =>
    (folding.settle.text, after.advance)

end LiveShader.Yaml
