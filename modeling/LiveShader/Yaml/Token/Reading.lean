import LiveShader.Yaml.Scalar.Block
import LiveShader.Yaml.Tag

/-!
# Reading tokens

`Token.ofText` is the list of the tokens of a text. What looks like a value may turn out
to be a key by the colon behind it; until then it is a possible key, and its token is held
back. So a text that breaks off yields the tokens before the first possible key, and then
`broken`: what a reader could know without the rest.
-/

namespace LiveShader.Yaml

/-- A token that may turn out to be a key: which token it is and where it starts. In a
block, what starts at the indentation of a mapping has to be a key. -/
structure PossibleKey where
  required : Bool
  number : Nat
  mark : Mark

/-- Tokens while they are read. Tokens and flow levels are listed with the newest first;
`keys` has a place for the block level at its end. -/
structure Reading where
  cursor : Cursor
  tokens : List Token
  keys : List (Option PossibleKey)
  indent : Int
  outerIndents : List Int
  keyAllowed : Bool

namespace Reading

/-- At the start of a text. -/
def ofText (text : String) : Reading :=
  ⟨Cursor.ofText text, [], [none], -1, [], true⟩

/-- Where the reading is. -/
def mark (reading : Reading) : Mark := reading.cursor.mark

/-- The reading is inside a flow collection. -/
def inFlow (reading : Reading) : Bool := 1 < reading.keys.length

/-- The column of the reading. -/
def column (reading : Reading) : Int := reading.mark.column

/-- Add a token that reaches from one place to the other. -/
def add (reading : Reading) (kind : TokenKind) (start stop : Mark) : Reading :=
  { reading with tokens := ⟨kind, start, stop⟩ :: reading.tokens }

/-- Put a token in front of the one with a number. -/
def insert (reading : Reading) (number : Nat) (kind : TokenKind) (mark : Mark) : Reading :=
  { reading with
    tokens := reading.tokens.insertIdx (reading.tokens.length - number) ⟨kind, mark, mark⟩ }

/-- The possible key of the innermost level. -/
def key? (reading : Reading) : Option PossibleKey :=
  reading.keys.head?.join

/-- Set the possible key of the innermost level. -/
def setKey (reading : Reading) (key : Option PossibleKey) : Reading :=
  { reading with keys := key :: reading.keys.drop 1 }

/-- Give up the possible key of the innermost level. -/
def dropKey (reading : Reading) : Except Flaw Reading :=
  match reading.key? with
  | none => .ok reading
  | some key =>
    if key.required then .error (.during .simpleKey key.mark .keyWithoutColon reading.mark)
    else .ok (reading.setKey none)

/-- What starts here may be a key, if a key may stand here. -/
def saveKey (reading : Reading) : Except Flaw Reading :=
  if reading.keyAllowed then
    reading.dropKey.map fun reading =>
      reading.setKey (some
        { required := !reading.inFlow && reading.indent = reading.column
          number := reading.tokens.length
          mark := reading.mark })
  else .ok reading

/-- A key stands on one line and takes at most so many characters. -/
def keyLimit : Nat := 1024

/-- A possible key has become too long for the place that is reached. -/
def PossibleKey.isStale (key : PossibleKey) (mark : Mark) : Bool :=
  key.mark.line < mark.line || key.mark.index + keyLimit < mark.index

/-- Give up the possible keys that have become too long. -/
def dropStaleKeys (reading : Reading) : Except Flaw Reading :=
  match reading.keys.reverse.findSome? fun key? =>
      key?.filter fun key => PossibleKey.isStale key reading.mark && key.required with
  | some key => .error (.during .simpleKey key.mark .keyWithoutColon reading.mark)
  | none =>
    .ok { reading with
      keys := reading.keys.map fun key? =>
        key?.filter fun key => !PossibleKey.isStale key reading.mark }

/-- Open a block collection at a column that is deeper than the indentation. Its token
goes in front of the token with the given number, or to the end. -/
def openBlock (reading : Reading) (kind : TokenKind) (number : Option Nat) (mark : Mark) :
    Reading :=
  if !reading.inFlow ∧ reading.indent < mark.column then
    let opened :=
      { reading with
        indent := mark.column, outerIndents := reading.indent :: reading.outerIndents }
    match number with
    | some number => opened.insert number kind mark
    | none => opened.add kind mark mark
  else reading

/-- Which indentation is left when all deeper than a column are closed, those around it,
and how many were closed. -/
def closing (column : Int) (indent : Int) : List Int → Int × List Int × Nat
  | [] => (indent, [], 0)
  | outer :: outers =>
    if column < indent then
      let (left, around, count) := closing column outer outers
      (left, around, count + 1)
    else (indent, outer :: outers, 0)

/-- Close the block collections that are deeper than a column. -/
def closeBlocks (reading : Reading) (column : Int) : Reading :=
  if reading.inFlow then reading
  else
    let (indent, outers, count) := closing column reading.indent reading.outerIndents
    { reading with
      indent := indent
      outerIndents := outers
      tokens :=
        List.replicate count ⟨.blockEnd, reading.mark, reading.mark⟩ ++ reading.tokens }

/-- One step through what separates tokens: blanks, comments and line endings. A tab
does not indent. The state says whether a key may follow and whether a comment has
begun. -/
def separatorStep (inFlow : Bool) (state : Bool × Bool) (cursor : Cursor) :
    Except Flaw (Option ((Bool × Bool) × Nat)) :=
  let (keyAllowed, inComment) := state
  match cursor.rest with
  | [] => .ok none
  | character :: _ =>
    if isBreak character then .ok (some ((keyAllowed || !inFlow, false), 0))
    else if inComment then .ok (some (state, 0))
    else if character = '\ufeff' ∧ cursor.mark.index = 0 then .ok (some (state, 0))
    else if character = ' ' then .ok (some (state, 0))
    else if character = '\t' ∧ (inFlow ∨ !keyAllowed) then .ok (some (state, 0))
    else if character = '#' then .ok (some ((keyAllowed, true), 0))
    else .ok none

/-- Pass what separates tokens. -/
def skipSeparators (reading : Reading) : Except Flaw Reading :=
  (reading.cursor.fold (separatorStep reading.inFlow) (reading.keyAllowed, false)).map
    fun ((keyAllowed, _), cursor) => { reading with keyAllowed := keyAllowed, cursor := cursor }

/-- Add a token of so many characters. -/
def take (reading : Reading) (kind : TokenKind) (count : Nat) : Reading :=
  let after := reading.cursor.drop count
  { reading.add kind reading.mark after.mark with cursor := after }

/-- Whether a key may follow. -/
def allowKey (reading : Reading) (allowed : Bool) : Reading :=
  { reading with keyAllowed := allowed }

/-- Read the end of the text. -/
def readEnd (reading : Reading) : Except Flaw Reading := do
  let mark := reading.mark
  let lineStart :=
    if mark.column = 0 then mark else { mark with line := mark.line + 1, column := 0 }
  let ended := { reading with cursor := { reading.cursor with mark := lineStart } }
  let reading ← (ended.closeBlocks (-1)).dropKey
  .ok ((reading.allowKey false).take .streamEnd 0)

/-- Read the start or the end of a document. -/
def readBoundary (reading : Reading) (kind : TokenKind) : Except Flaw Reading := do
  let reading ← (reading.closeBlocks (-1)).dropKey
  .ok ((reading.allowKey false).take kind 3)

/-- Read a directive. -/
def readDirectiveLine (reading : Reading) : Except Flaw Reading := do
  let reading ← (reading.closeBlocks (-1)).dropKey
  let (kind, stop, after) ← readDirective reading.cursor
  .ok { (reading.allowKey false).add kind reading.mark stop with cursor := after }

/-- Read the opening bracket of a flow collection. -/
def readFlowStart (reading : Reading) (kind : TokenKind) : Except Flaw Reading := do
  let reading ← reading.saveKey
  let inner := { reading with keys := none :: reading.keys }
  .ok ((inner.allowKey true).take kind 1)

/-- Read the closing bracket of a flow collection. -/
def readFlowEnd (reading : Reading) (kind : TokenKind) : Except Flaw Reading := do
  let reading ← reading.dropKey
  let outer := if reading.inFlow then { reading with keys := reading.keys.drop 1 } else reading
  .ok ((outer.allowKey false).take kind 1)

/-- Read the comma between the items of a flow collection. -/
def readFlowEntry (reading : Reading) : Except Flaw Reading := do
  let reading ← reading.dropKey
  .ok ((reading.allowKey true).take .flowEntry 1)

/-- Read the dash of an item of a block sequence. -/
def readBlockEntry (reading : Reading) : Except Flaw Reading := do
  if !reading.inFlow ∧ !reading.keyAllowed then .error (.plain .misplacedEntry reading.mark)
  else
    let reading ← (reading.openBlock .blockSequenceStart none reading.mark).dropKey
    .ok ((reading.allowKey true).take .blockEntry 1)

/-- Read the question mark of a key. -/
def readKey (reading : Reading) : Except Flaw Reading := do
  if !reading.inFlow ∧ !reading.keyAllowed then .error (.plain .misplacedKey reading.mark)
  else
    let reading ← (reading.openBlock .blockMappingStart none reading.mark).dropKey
    .ok ((reading.allowKey !reading.inFlow).take .key 1)

/-- Read the colon of a value. It makes a key of the possible key of its level. -/
def readValue (reading : Reading) : Except Flaw Reading :=
  match reading.key? with
  | some key =>
    let keyed := reading.insert key.number .key key.mark
    let opened := keyed.openBlock .blockMappingStart (some key.number) key.mark
    .ok (((opened.setKey none).allowKey false).take .value 1)
  | none =>
    if !reading.inFlow ∧ !reading.keyAllowed then
      .error (.plain .misplacedValue reading.mark)
    else
      let opened := reading.openBlock .blockMappingStart none reading.mark
      .ok ((opened.allowKey !reading.inFlow).take .value 1)

/-- Read a token that may begin a key, and after which no key may follow. -/
def readPossibleKey (reading : Reading)
    (read : Cursor → Except Flaw (TokenKind × Bool × Cursor)) : Except Flaw Reading := do
  let reading ← reading.saveKey
  let (kind, keyAllowed, after) ← read reading.cursor
  .ok { (reading.allowKey keyAllowed).add kind reading.mark after.mark with cursor := after }

/-- Read a block scalar. -/
def readBlockScalar (reading : Reading) (style : Style) : Except Flaw Reading := do
  let reading ← reading.dropKey
  let (text, after) ← readBlock (style = .literal) reading.indent reading.cursor
  let kind : TokenKind := .scalar style (String.ofList text)
  .ok { (reading.allowKey true).add kind reading.mark after.mark with cursor := after }

/-- Indicators that no plain scalar begins with. -/
def indicators : List Char := "-?:,[]\x7b\x7d#&*!|>'\"%@`".toList

/-- A plain scalar may begin with this text. -/
def startsPlain (inFlow : Bool) : List Char → Bool
  | [] => false
  | character :: rest =>
    (!isBlank character && !isBreak character && !indicators.contains character) ||
      (character = '-' && !rest.head?.any isBlank) ||
      (!inFlow && (character = '?' || character = ':') && !startsBlank rest)

/-- Read the token that begins at the cursor. -/
def readToken (reading : Reading) : Except Flaw Reading :=
  let cursor := reading.cursor
  let inFlow := reading.inFlow
  match cursor.rest with
  | [] => reading.readEnd
  | character :: rest =>
    if character = '%' ∧ cursor.mark.column = 0 then reading.readDirectiveLine
    else if character = '-' ∧ cursor.atDocumentBoundary then reading.readBoundary .documentStart
    else if character = '.' ∧ cursor.atDocumentBoundary then reading.readBoundary .documentEnd
    else if character = '[' then reading.readFlowStart .flowSequenceStart
    else if character = '\x7b' then reading.readFlowStart .flowMappingStart
    else if character = ']' then reading.readFlowEnd .flowSequenceEnd
    else if character = '\x7d' then reading.readFlowEnd .flowMappingEnd
    else if character = ',' then reading.readFlowEntry
    else if character = '-' ∧ startsBlank rest then reading.readBlockEntry
    else if character = '?' ∧ (inFlow ∨ startsBlank rest) then reading.readKey
    else if character = ':' ∧ (inFlow ∨ startsBlank rest) then reading.readValue
    else if character = '*' then
      reading.readPossibleKey fun cursor =>
        (readName .alias cursor).map fun (name, after) => (.alias name, false, after)
    else if character = '&' then
      reading.readPossibleKey fun cursor =>
        (readName .anchor cursor).map fun (name, after) => (.anchor name, false, after)
    else if character = '!' then
      reading.readPossibleKey fun cursor =>
        (readTag inFlow cursor).map fun (kind, after) => (kind, false, after)
    else if character = '|' ∧ !inFlow then reading.readBlockScalar .literal
    else if character = '>' ∧ !inFlow then reading.readBlockScalar .folded
    else if character = '\'' then
      reading.readPossibleKey fun cursor =>
        (readQuoted false cursor).map fun (text, after) =>
          (.scalar .singleQuoted (String.ofList text), false, after)
    else if character = '"' then
      reading.readPossibleKey fun cursor =>
        (readQuoted true cursor).map fun (text, after) =>
          (.scalar .doubleQuoted (String.ofList text), false, after)
    else if startsPlain inFlow (character :: rest) then
      reading.readPossibleKey fun cursor =>
        (readPlain inFlow (reading.indent + 1) cursor).map fun (text, broken, after) =>
          (.scalar .plain (String.ofList text), broken, after)
    else .error (.during .token reading.mark .noToken reading.mark)

/-- Read the next token, with the block ends in front of it. -/
def next (reading : Reading) : Except Flaw Reading := do
  let reading ← reading.skipSeparators
  let reading ← reading.dropStaleKeys
  let reading ← (reading.closeBlocks reading.column).readToken
  reading.dropStaleKeys

/-- The text has been read to its end. -/
def isEnded (reading : Reading) : Bool :=
  reading.tokens.head?.any (·.kind = .streamEnd)

/-- The tokens in front of the first possible key, in their order. -/
def settled (reading : Reading) : List Token :=
  let held := (reading.keys.filterMap fun key? => key?.map PossibleKey.number).foldl min
    reading.tokens.length
  reading.tokens.reverse.take held

/-- The tokens of a text, read in at most so many rounds. -/
def run : Nat → Reading → List Token
  | 0, reading => reading.tokens.reverse
  | rounds + 1, reading =>
    match reading.next with
    | .error flaw => reading.settled ++ [⟨.broken flaw, flaw.mark, flaw.mark⟩]
    | .ok next => if next.isEnded then next.tokens.reverse else run rounds next

end Reading

/-- A character that a YAML text may hold. -/
def isAllowed (character : Char) : Bool :=
  let code := character.toNat
  code = 0x09 || code = 0x0A || code = 0x0D || (0x20 ≤ code && code ≤ 0x7E) || code = 0x85 ||
    (0xA0 ≤ code && code ≤ 0xFFFD) || 0x10000 ≤ code

/-- The tokens of a text. Each round of reading passes a character or ends, so there are
fewer rounds than characters and one more. A character that is not allowed breaks the
text before its first token. -/
def Token.ofText (text : String) : List Token :=
  match text.toList.dropWhile isAllowed with
  | [] => (Reading.ofText text).run (text.length + 1)
  | _ =>
    let bytesBefore := (String.ofList (text.toList.takeWhile isAllowed)).utf8ByteSize
    [⟨.broken ⟨.controlCharacter, Mark.start, bytesBefore, none⟩, Mark.start, Mark.start⟩]

end LiveShader.Yaml
