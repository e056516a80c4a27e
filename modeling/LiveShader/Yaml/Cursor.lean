/-!
# Places in a YAML text

A cursor is what remains of a text, with the place where that begins. It moves one
character at a time; a carriage return with the line feed after it counts as one. `fold`
is the one loop over a text: it ends on every text, because each round moves on.
-/

namespace LiveShader.Yaml

/-- A place in a text, counted from zero. -/
structure Mark where
  line : Nat
  column : Nat
  index : Nat
deriving DecidableEq, Inhabited

/-- The start of a text. -/
def Mark.start : Mark := ⟨0, 0, 0⟩

/-- A place as it is shown: lines and columns count from one. The start of a text is
shown by its index. -/
def Mark.text (mark : Mark) : String :=
  if mark.line = 0 ∧ mark.column = 0 then "position " ++ toString mark.index
  else "line " ++ toString (mark.line + 1) ++ " column " ++ toString (mark.column + 1)

/-- A character that ends a line. -/
def isBreak (character : Char) : Bool :=
  character = '\n' || character = '\r' || character = '\x85' || character = '\u2028' ||
    character = '\u2029'

/-- A blank within a line. -/
def isBlank (character : Char) : Bool :=
  character = ' ' || character = '\t'

/-- A character that names are made of. -/
def isWordCharacter (character : Char) : Bool :=
  character.isAlphanum || character = '_' || character = '-'

/-- What a line ending means in a scalar: the separators of lines and of paragraphs mean
themselves, every other ending a line feed. -/
def meaningOfBreak (character : Char) : Char :=
  if character = '\u2028' || character = '\u2029' then character else '\n'

/-- The text begins with a blank or a line ending, or is empty. -/
def startsBlank : List Char → Bool
  | [] => true
  | character :: _ => isBlank character || isBreak character

/-- The text begins with a line ending, or is empty. -/
def startsBreak : List Char → Bool
  | [] => true
  | character :: _ => isBreak character

/-- What remains of a text, and where that begins. -/
structure Cursor where
  rest : List Char
  mark : Mark

namespace Cursor

/-- The cursor at the start of a text. -/
def ofText (text : String) : Cursor :=
  ⟨text.toList, Mark.start⟩

/-- Move one character on. -/
def advance (cursor : Cursor) : Cursor :=
  match cursor with
  | ⟨[], mark⟩ => ⟨[], mark⟩
  | ⟨'\r' :: '\n' :: rest, mark⟩ => ⟨rest, ⟨mark.line + 1, 0, mark.index + 2⟩⟩
  | ⟨character :: rest, mark⟩ =>
    if isBreak character then ⟨rest, ⟨mark.line + 1, 0, mark.index + 1⟩⟩
    else ⟨rest, ⟨mark.line, mark.column + 1, mark.index + 1⟩⟩

/-- Move so many characters on. -/
def drop (cursor : Cursor) : Nat → Cursor
  | 0 => cursor
  | count + 1 => cursor.advance.drop count

/-- To advance leaves no more to read. -/
theorem length_advance_le (cursor : Cursor) : cursor.advance.rest.length ≤ cursor.rest.length := by
  unfold advance
  split
  · exact Nat.le_refl _
  · simp only [List.length_cons]
    omega
  · split <;> simp

/-- To advance leaves less to read, if there is something. -/
theorem length_advance_lt {cursor : Cursor} (nonempty : cursor.rest ≠ []) :
    cursor.advance.rest.length < cursor.rest.length := by
  unfold advance
  split
  · exact absurd rfl nonempty
  · simp only [List.length_cons]
    omega
  · split <;> simp

/-- To drop characters leaves no more to read. -/
theorem length_drop_le (cursor : Cursor) (count : Nat) :
    (cursor.drop count).rest.length ≤ cursor.rest.length := by
  induction count generalizing cursor with
  | zero => exact Nat.le_refl _
  | succ count inductionHypothesis =>
    exact Nat.le_trans (inductionHypothesis cursor.advance) (length_advance_le cursor)

/-- Go on as long as `step` says. It sees the state and the cursor, and answers with
nothing to stop, or with the next state and how many characters to pass besides the
first one. At the end of the text the loop stops. -/
def fold {State Error : Type} (step : State → Cursor → Except Error (Option (State × Nat)))
    (state : State) (cursor : Cursor) : Except Error (State × Cursor) :=
  match step state cursor with
  | .error error => .error error
  | .ok none => .ok (state, cursor)
  | .ok (some (next, besides)) =>
    if _atEnd : cursor.rest = [] then .ok (next, cursor)
    else fold step next (cursor.advance.drop besides)
termination_by cursor.rest.length
decreasing_by
  exact Nat.lt_of_le_of_lt (length_drop_le _ _) (length_advance_lt _atEnd)

/-- The characters up to the first one that `accepts` refuses, and the cursor there. -/
def takeWhile (cursor : Cursor) (accepts : Char → Bool) : List Char × Cursor :=
  let taken := cursor.rest.takeWhile accepts
  (taken, cursor.drop taken.length)

/-- Pass the blanks of the line. -/
def skipBlanks (cursor : Cursor) : Cursor :=
  (cursor.takeWhile isBlank).2

/-- Pass blanks, a comment if one follows, and the line ending. Nothing else may stand
on the line. -/
def skipRestOfLine? (cursor : Cursor) : Option Cursor :=
  let cursor := cursor.skipBlanks
  let cursor :=
    if cursor.rest.head? = some '#' then (cursor.takeWhile fun c => !isBreak c).2 else cursor
  if startsBreak cursor.rest then some cursor.advance else none

/-- A line that begins with `---` or `...` and a blank after it ends a document. -/
def atDocumentBoundary (cursor : Cursor) : Bool :=
  cursor.mark.column = 0 &&
    match cursor.rest with
    | '-' :: '-' :: '-' :: rest => startsBlank rest
    | '.' :: '.' :: '.' :: rest => startsBlank rest
    | _ => false

end Cursor

end LiveShader.Yaml
