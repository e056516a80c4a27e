import LiveShader.Yaml.Flaw

/-!
# Block scalars

A block scalar is the indented lines below its header. A literal one keeps its line
endings, a folded one joins neighbouring lines that do not begin with a blank. The header
may give the indentation, which is otherwise that of the first line that says something,
and what becomes of the line endings at the end: one stays, all stay, or none does.
-/

namespace LiveShader.Yaml

/-- What becomes of the line endings at the end of a block scalar. -/
inductive Chomping where
  | clip
  | keep
  | strip
deriving DecidableEq

/-- The chomping that a character asks for. -/
def chomping? : Char → Option Chomping
  | '+' => some .keep
  | '-' => some .strip
  | _ => none

/-- The header of a block scalar: its chomping, and how far it is indented more than what
is around it, if the header says so. -/
structure BlockHeader where
  chomping : Chomping
  increment : Option Nat

/-- Read the indicators of a header, in either order. -/
def readIndicators (cursor : Cursor) : Except Problem (BlockHeader × Cursor) :=
  let digit? (cursor : Cursor) : Option Char := cursor.rest.head?.filter Char.isDigit
  let increment (digit : Char) : Except Problem (Option Nat) :=
    if digit = '0' then .error .zeroIndentation else .ok (some (digit.toNat - 48))
  match cursor.rest.head?.bind chomping? with
  | some chomping =>
    match digit? cursor.advance with
    | none => .ok (⟨chomping, none⟩, cursor.advance)
    | some digit =>
      (increment digit).map fun increment => (⟨chomping, increment⟩, cursor.advance.advance)
  | none =>
    match digit? cursor with
    | none => .ok (⟨.clip, none⟩, cursor)
    | some digit =>
      (increment digit).map fun increment =>
        match cursor.advance.rest.head?.bind chomping? with
        | some chomping => (⟨chomping, increment⟩, cursor.advance.advance)
        | none => (⟨.clip, increment⟩, cursor.advance)

/-- A block scalar while it is read, its text with the last character first. `inLine`
says that a line of it has begun, `widest` is the deepest indentation met before the
first line. -/
structure BlockReading where
  indent : Option Nat
  widest : Nat
  inLine : Bool
  reversed : List Char
  lastBreak : List Char
  emptyLines : List Char
  lineBeganBlank : Bool

namespace BlockReading

/-- Nothing read yet. -/
def empty (indent : Option Nat) : BlockReading :=
  ⟨indent, 0, false, [], [], [], false⟩

/-- The indentation, settled: at least one column, and deeper than what is around. -/
def settleIndent (reading : BlockReading) (outer : Int) : Nat :=
  reading.indent.getD (max (max reading.widest (outer + 1).toNat) 1)

/-- Begin a line with a character. A folded scalar joins it to the line before it by a
space, if neither begins with a blank and no empty line is between them. -/
def beginLine (reading : BlockReading) (literal : Bool) (indent : Nat) (character : Char) :
    BlockReading :=
  let startsBlank := isBlank character
  let joins := !literal && reading.lastBreak = ['\n'] && !reading.lineBeganBlank && !startsBlank
  let gap :=
    if joins then if reading.emptyLines = [] then [' '] else reading.emptyLines
    else reading.lastBreak ++ reading.emptyLines
  { reading with
    indent := some indent
    inLine := true
    reversed := character :: (gap.reverse ++ reading.reversed)
    lastBreak := []
    emptyLines := []
    lineBeganBlank := startsBlank }

/-- The text of a scalar that has been read. -/
def chomped (reading : BlockReading) (chomping : Chomping) : List Char :=
  reading.reversed.reverse ++
    match chomping with
    | .strip => []
    | .clip => reading.lastBreak
    | .keep => reading.lastBreak ++ reading.emptyLines

end BlockReading

/-- One step through the lines of a block scalar that began at `start`. -/
def blockStep (literal : Bool) (outer : Int) (start : Mark) (reading : BlockReading)
    (cursor : Cursor) : Except Flaw (Option (BlockReading × Nat)) :=
  match cursor.rest with
  | [] => .ok none
  | character :: _ =>
    let column := cursor.mark.column
    if reading.inLine then
      if isBreak character then
        .ok (some ({ reading with
          inLine := false, lastBreak := [meaningOfBreak character] }, 0))
      else .ok (some ({ reading with reversed := character :: reading.reversed }, 0))
    else
      let isShallow := reading.indent.all (column < ·)
      if isShallow ∧ character = ' ' then
        .ok (some ({ reading with widest := max reading.widest (column + 1) }, 0))
      else if isShallow ∧ character = '\t' then
        .error (.during .blockScalar start .tabInBlock cursor.mark)
      else if isBreak character then
        .ok (some ({ reading with
          emptyLines := reading.emptyLines ++ [meaningOfBreak character] }, 0))
      else
        let indent := reading.settleIndent outer
        if column = indent then .ok (some (reading.beginLine literal indent character, 0))
        else .ok none

/-- Read a block scalar inside a block of indentation `outer`: its text, and the cursor
behind it. -/
def readBlock (literal : Bool) (outer : Int) (cursor : Cursor) :
    Except Flaw (List Char × Cursor) :=
  let start := cursor.mark
  match readIndicators cursor.advance with
  | .error problem => .error (.during .blockScalar start problem cursor.mark)
  | .ok (header, after) =>
    match after.skipRestOfLine? with
    | none => .error (.during .blockScalar start .lineEnd after.skipBlanks.mark)
    | some body =>
      let indent := header.increment.map fun increment => outer.toNat + increment
      (body.fold (blockStep literal outer start) (BlockReading.empty indent)).map
        fun (reading, rest) => (reading.chomped header.chomping, rest)

end LiveShader.Yaml
