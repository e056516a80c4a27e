import LiveShader.Settings
import LiveShader.Settings.Rejection

/-!
# Settings from YAML

Settings are a mapping of known fields, each at most once. A field that is missing or
empty has its standard value. Items are read in the order of the text, so that of two
mistakes the first one counts, and a mistake counts before a flaw of the text behind it.
-/

namespace LiveShader.Settings

open Yaml

/-- A reader takes items of a document from their start, and leaves those behind what it
has read. -/
abbrev Reader (α : Type) := StateT (List PlacedItem) (Except Rejection) α

/-- The rejection where the items of a document end early. -/
def interruption (document : Document) : Rejection :=
  document.flaw.elim .incomplete .broken

/-- Read the next item, or in place of an alias the items from its anchor on. -/
def readItem {α : Type} (document : Document) (read : PlacedItem → Reader α) :
    Reader α := fun items =>
  match items with
  | [] => .error (interruption document)
  | ⟨.alias anchor, _⟩ :: rest =>
    match document.target anchor with
    | [] => .error (interruption document)
    | placed :: inner => (read placed inner).map fun (value, _) => (value, rest)
  | placed :: rest => read placed rest

/-- Read, and blame mistakes on a part of the document. -/
def blaming {α : Type} (mark : Mark) (trail : Trail) (read : Reader α) : Reader α := fun items =>
  (read items).mapError (Rejection.blame mark trail)

/-- A mistake that is not blamed on any part yet. -/
def mistake {α : Type} (mistake : Mistake) : Reader α :=
  throw (.mistaken mistake none)

/-- What a scalar is mistaken for where something else was expected. -/
def scalarMistake (scalar : Scalar) (expected : String) : Mistake :=
  match scalar.value with
  | .ok value => .wrongType (.scalar value) expected
  | .error broken => .wrongText broken.text broken.promised

/-- The rejection of an item where something else was expected. -/
def mismatch {α : Type} (document : Document) (item : Item) (expected : String) : Reader α :=
  match item with
  | .scalar scalar => mistake (scalarMistake scalar expected)
  | .sequenceStart _ => mistake (.wrongType .sequence expected)
  | .mappingStart _ => mistake (.wrongType .mapping expected)
  | .alias _ | .sequenceEnd | .mappingEnd => throw (interruption document)

/-- Read a text. Every scalar has one. -/
def readText (expected : String) (document : Document) (trail : Trail) : Reader String :=
  readItem document fun ⟨item, mark⟩ => blaming mark trail <|
    match item with
    | .scalar scalar => pure scalar.text
    | _ => mismatch document item expected

/-- A scalar that may be a number: a plain one, or a literal one that is tagged as an
integer. -/
def mayBeNumber (scalar : Scalar) : Bool :=
  scalar.style = .plain ||
    (scalar.style = .literal && scalar.tag = some (CoreSchema.tagOf "int"))

/-- Read a natural number. -/
def readNumber (expected : String) (document : Document) (trail : Trail) : Reader Nat :=
  readItem document fun ⟨item, mark⟩ => blaming mark trail <|
    match item with
    | .scalar scalar =>
      let number? :=
        if mayBeNumber scalar then CoreSchema.natural? CoreSchema.greatest64 scalar.text
        else none
      match number? with
      | some number => pure number
      | none => mismatch document item expected
    | _ => mismatch document item expected

/-- Whether a scalar stands for a value that is missing: an empty one, or one that means
nothing. -/
def readMissing (scalar : Scalar) : Reader Bool :=
  if scalar.style ≠ .plain then pure false
  else
    match scalar.tag with
    | none => pure (scalar.text = "" || CoreSchema.isNull scalar.text)
    | some tag =>
      if tag ≠ CoreSchema.tagOf "null" then pure false
      else if CoreSchema.isNull scalar.text then pure true
      else mistake (.wrongText scalar.text "null")

/-- Read a value that may be missing. -/
def readOptional {α : Type} (document : Document) (read : Reader α) : Reader (Option α) :=
  readItem document fun placed => do
    let missing ← match placed.item with
      | .scalar scalar => readMissing scalar
      | _ => pure false
    if missing then pure none
    else
      modify (placed :: ·)
      some <$> read

/-- The names of the formats. -/
def formatNames : List String :=
  [DiagnosticFormat.paren.name, DiagnosticFormat.colon.name]

/-- The format with a name. -/
def readNamedFormat (name : String) : Reader DiagnosticFormat :=
  match DiagnosticFormat.ofName? name with
  | some format => pure format
  | none => mistake (.unknownChoice name formatNames)

/-- Nothing may stand behind a tag that is the value itself. -/
def readNothing (document : Document) (item : Item) : Reader PUnit :=
  match item with
  | .scalar scalar =>
    if scalar.style = .plain ∧ (scalar.text = "" ∨ CoreSchema.isNull scalar.text) then pure ⟨⟩
    else mistake (.wrongText scalar.text "null")
  | item => mismatch document item "unit"

/-- The tag of an item, if it is one of the document's own. -/
def itemTag? : Item → Option String
  | .scalar scalar => localTag? scalar.tag
  | .sequenceStart tag => localTag? tag
  | .mappingStart tag => localTag? tag
  | _ => none

/-- Read a format: its name as a scalar, or as the tag of nothing. -/
def readFormat (document : Document) (trail : Trail) : Reader DiagnosticFormat :=
  readItem document fun ⟨item, mark⟩ =>
    match itemTag? item with
    | some name => do
      let format ← readNamedFormat name
      blaming mark trail (readNothing document item)
      pure format
    | none => blaming mark trail <|
      match item with
      | .scalar scalar => readNamedFormat scalar.text
      | _ => mismatch document item "a YAML tag starting with '!'"

/-- A field of a record: its name, and how its value is read into the record. -/
structure Field (Record : Type) where
  name : String
  read : Document → Trail → Record → Reader Record

/-- The field that holds what a reader reads. -/
def Field.of {Record α : Type} (name : String) (read : Document → Trail → Reader α)
    (set : Record → α → Record) : Field Record :=
  ⟨name, fun document trail record => set record <$> read document trail⟩

/-- Read the key of a field. -/
def readKey {Record : Type} (fields : List (Field Record)) (document : Document)
    (trail : Trail) : Reader (Field Record) :=
  readItem document fun ⟨item, mark⟩ => blaming mark trail <|
    match item with
    | .scalar scalar =>
      match fields.find? (·.name = scalar.text) with
      | some field => pure field
      | none => mistake (.unknownField scalar.text (fields.map Field.name))
    | _ => mismatch document item "field identifier"

/-- The text of a key that is written out. -/
def writtenKey? (items : List PlacedItem) : Option String :=
  match items with
  | ⟨.scalar scalar, _⟩ :: _ => some scalar.text
  | _ => none

/-- Read the fields of a mapping up to its end, at most so many. -/
def readFields {Record : Type} (fields : List (Field Record)) (document : Document)
    (trail : Trail) : Nat → List String → Record → Reader Record
  | 0, _, _ => throw (interruption document)
  | count + 1, seen, record => do
    let items ← get
    match items with
    | ⟨.mappingEnd, _⟩ :: rest =>
      set rest
      pure record
    | _ =>
      let field ← readKey fields document trail
      if seen.contains field.name then mistake (.duplicateField field.name)
      else
        let record ← field.read document (fieldTrail trail (writtenKey? items)) record
        readFields fields document trail count (field.name :: seen) record

/-- Read a record: a mapping of its fields, or nothing. -/
def readRecord {Record : Type} (name : String) (fields : List (Field Record))
    (standard : Record) (document : Document) (trail : Trail) : Reader Record :=
  readItem document fun ⟨item, mark⟩ => blaming mark trail <|
    match item with
    | .mappingStart _ =>
      readFields fields document trail (document.items.length + 1) [] standard
    | .scalar ⟨_, .plain, ""⟩ => pure standard
    | _ => mismatch document item ("struct " ++ name)

/-- The fields of the limits. -/
def limitFields : List (Field ResolutionLimits) :=
  [.of "max_depth" (readNumber "usize") fun limits depth => { limits with maxDepth := depth },
   .of "max_files" (readNumber "usize") fun limits files => { limits with maxFiles := files }]

/-- The fields of the timing. -/
def watchFields : List (Field WatchTiming) :=
  [.of "poll_interval_ms" (readNumber "u64") fun timing pause =>
     { timing with pollInterval := pause },
   .of "debounce_ms" (readNumber "u64") fun timing pause => { timing with debounce := pause }]

/-- The fields of the settings. -/
def fields : List (Field Settings) :=
  [.of "entry"
     (fun document trail => readOptional document (readText "path string" document trail))
     fun settings entry => { settings with entry := entry.map Path.mk },
   .of "diagnostic_format"
     (fun document trail => readOptional document (readFormat document trail))
     fun settings format => { settings with format := format },
   .of "limits" (readRecord "IncludeLimits" limitFields ResolutionLimits.standard)
     fun settings limits => { settings with limits := limits },
   .of "watch" (readRecord "WatchSettings" watchFields WatchTiming.standard)
     fun settings timing => { settings with watch := timing }]

/-- The settings that a document holds. -/
def ofDocument (document : Document) : Except Rejection Settings := do
  let settings ←
    if document.items = [] ∧ document.flaw = none then .ok standard
    else
      ((readRecord "ProjectConfig" fields standard document none).run document.items).map
        Prod.fst
  match document.flaw with
  | some flaw => .error (.broken flaw)
  | none => if document.hasMore then .error .severalDocuments else .ok settings

/-- The settings that a text holds. -/
def ofYaml (text : String) : Except Rejection Settings :=
  ofDocument (Document.ofText text)

end LiveShader.Settings
