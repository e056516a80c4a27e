import LiveShader.Yaml.Token.Reading

/-!
# YAML events

The nodes of a document in the order of the text. A collection is two events with those
of its items, or of its keys and values in turn, between them. `Walk` finds the events
in the tokens. It keeps what is open as a list of expectations, the innermost first, and
each step yields one event.
-/

namespace LiveShader.Yaml

/-- What happens at one place of a document. Names in aliases and anchors are those of
the text. -/
inductive Event where
  | alias (name : String)
  | scalar (anchor tag : Option String) (style : Style) (text : String)
  | sequenceStart (anchor tag : Option String)
  | sequenceEnd
  | mappingStart (anchor tag : Option String)
  | mappingEnd
deriving DecidableEq

/-- An event and where it is. -/
structure Placed where
  event : Event
  mark : Mark
deriving DecidableEq

/-- A scalar that is not written, as the value of `key:` may be. -/
def Event.nothing : Event := .scalar none none .plain ""

/-- What a document goes on with. Collections know where they began. -/
inductive Expectation where
  | root
  | blockItem (start : Mark)
  | plainItem
  | blockKey (start : Mark)
  | blockValue (start : Mark)
  | flowItem (start : Mark) (isFirst : Bool)
  | pairKey
  | pairValue
  | pairEnd
  | flowKey (start : Mark) (isFirst : Bool)
  | flowValue (start : Mark)
  | flowNoValue
deriving DecidableEq

/-- Where the reading of a document is: what is expected, innermost first, and the tokens
that remain. `handles` says which text a tag handle stands for. -/
structure Walk where
  expected : List Expectation
  tokens : List Token
  handles : List (String × String)

namespace Walk

/-- The next token. Behind the last one the stream has ended. -/
def token (walk : Walk) : Token :=
  walk.tokens.headD ⟨.streamEnd, Mark.start, Mark.start⟩

/-- Pass a token. -/
def skip (walk : Walk) : Walk :=
  { walk with tokens := walk.tokens.drop 1 }

/-- Expect something before all that is expected. -/
def expect (walk : Walk) (expectation : Expectation) : Walk :=
  { walk with expected := expectation :: walk.expected }

/-- The result of one step: its event, and the walk after it. -/
abbrev Step := Except Flaw (Placed × Walk)

/-- A step that yields a scalar that is not written. -/
def nothingAt (walk : Walk) (mark : Mark) : Step :=
  .ok (⟨.nothing, mark⟩, walk)

/-- What stands in front of a node: an anchor and a tag, in either order, where they
begin, and where the tag is. -/
structure Properties where
  anchor : Option String
  tag : Option (String × String)
  start : Mark
  tagMark : Mark

/-- Read what stands in front of a node. -/
def readProperties (walk : Walk) : Properties × Walk :=
  let token := walk.token
  let bare : Properties := ⟨none, none, token.start, token.start⟩
  match token.kind with
  | .anchor name =>
    let after := walk.skip
    match after.token.kind with
    | .tag handle suffix =>
      ({ bare with
          anchor := some name, tag := some (handle, suffix), tagMark := after.token.start },
        after.skip)
    | _ => ({ bare with anchor := some name }, after)
  | .tag handle suffix =>
    let after := walk.skip
    match after.token.kind with
    | .anchor name =>
      ({ bare with anchor := some name, tag := some (handle, suffix) }, after.skip)
    | _ => ({ bare with tag := some (handle, suffix) }, after)
  | _ => (bare, walk)

/-- The full text of a tag. -/
def resolveTag (walk : Walk) (properties : Properties) : Except Flaw (Option String) :=
  match properties.tag with
  | none => .ok none
  | some ("", suffix) => .ok (some suffix)
  | some (handle, suffix) =>
    match walk.handles.lookup handle with
    | some lead => .ok (some (lead ++ suffix))
    | none =>
      .error (.during .node properties.start .undefinedHandle properties.tagMark)

/-- Read a node. Block collections begin only where `inBlock` holds, and a sequence
without an indentation of its own only where `mayBePlain` holds. -/
def readNode (walk : Walk) (inBlock mayBePlain : Bool) : Step := do
  match walk.token.kind with
  | .alias name => .ok (⟨.alias name, walk.token.start⟩, walk.skip)
  | .broken flaw => .error flaw
  | _ =>
    let (properties, walk) := walk.readProperties
    match walk.token.kind with
    | .broken flaw => .error flaw
    | kind =>
      let tag ← walk.resolveTag properties
      let anchor := properties.anchor
      let start := walk.token.start
      match kind, inBlock, mayBePlain with
      | .blockEntry, _, true =>
        .ok (⟨.sequenceStart anchor tag, properties.start⟩, walk.expect .plainItem)
      | .scalar style text, _, _ =>
        .ok (⟨.scalar anchor (tag.filter (· ≠ "!")) style text, properties.start⟩, walk.skip)
      | .flowSequenceStart, _, _ =>
        .ok (⟨.sequenceStart anchor tag, properties.start⟩,
          walk.skip.expect (.flowItem start true))
      | .flowMappingStart, _, _ =>
        .ok (⟨.mappingStart anchor tag, properties.start⟩,
          walk.skip.expect (.flowKey start true))
      | .blockSequenceStart, true, _ =>
        .ok (⟨.sequenceStart anchor tag, properties.start⟩, walk.skip.expect (.blockItem start))
      | .blockMappingStart, true, _ =>
        .ok (⟨.mappingStart anchor tag, properties.start⟩, walk.skip.expect (.blockKey start))
      | _, _, _ =>
        if anchor.isSome ∨ tag.isSome then
          .ok (⟨.scalar anchor tag .plain "", properties.start⟩, walk)
        else
          .error (.during (if inBlock then .blockNode else .flowNode) properties.start
            .nodeContent start)

/-- Read the item behind a dash, which began at `mark`, if one is there. -/
def itemAfter (walk : Walk) (mark : Mark) (isEnd : TokenKind → Bool) : Step :=
  match walk.token.kind with
  | .broken flaw => .error flaw
  | kind => if isEnd kind then walk.nothingAt mark else walk.readNode true false

/-- The next event of a block sequence. -/
def blockItem (walk : Walk) (start : Mark) : Step :=
  let token := walk.token
  match token.kind with
  | .broken flaw => .error flaw
  | .blockEntry =>
    (walk.skip.expect (.blockItem start)).itemAfter token.stop fun kind =>
      kind = .blockEntry || kind = .blockEnd
  | .blockEnd => .ok (⟨.sequenceEnd, token.start⟩, walk.skip)
  | _ => .error (.during .blockSequence start .blockEntry token.start)

/-- The next event of a block sequence at the indentation of its key. -/
def plainItem (walk : Walk) : Step :=
  let token := walk.token
  match token.kind with
  | .broken flaw => .error flaw
  | .blockEntry =>
    (walk.skip.expect .plainItem).itemAfter token.stop fun kind =>
      kind = .blockEntry || kind = .key || kind = .value || kind = .blockEnd
  | _ => .ok (⟨.sequenceEnd, token.start⟩, walk)

/-- Read the key or the value behind its indicator, which ended at `mark`, if one is
there. -/
def partAfter (walk : Walk) (mark : Mark) : Step :=
  match walk.token.kind with
  | .broken flaw => .error flaw
  | .key | .value | .blockEnd => walk.nothingAt mark
  | _ => walk.readNode true true

/-- The next key of a block mapping, or its end. -/
def blockKey (walk : Walk) (start : Mark) : Step :=
  let token := walk.token
  match token.kind with
  | .broken flaw => .error flaw
  | .key => (walk.skip.expect (.blockValue start)).partAfter token.stop
  | .blockEnd => .ok (⟨.mappingEnd, token.start⟩, walk.skip)
  | _ => .error (.during .blockMapping start .blockKey token.start)

/-- The value behind a key of a block mapping. -/
def blockValue (walk : Walk) (start : Mark) : Step :=
  let token := walk.token
  let walk := walk.expect (.blockKey start)
  match token.kind with
  | .broken flaw => .error flaw
  | .value => walk.skip.partAfter token.stop
  | _ => walk.nothingAt token.start

/-- Pass the comma in front of an item of a flow collection that is not its first. -/
def skipComma (walk : Walk) (isFirst : Bool) (problem : Flaw) : Except Flaw Walk :=
  match walk.token.kind with
  | .broken flaw => .error flaw
  | .flowEntry => .ok (if isFirst then walk else walk.skip)
  | _ => if isFirst then .ok walk else .error problem

/-- The next event of a flow sequence. -/
def flowItem (walk : Walk) (start : Mark) (isFirst : Bool) : Step := do
  let finish (walk : Walk) : Step := .ok (⟨.sequenceEnd, walk.token.start⟩, walk.skip)
  if walk.token.kind = .flowSequenceEnd then finish walk
  else
    let problem := Flaw.during .flowSequence start .flowSequenceEnd walk.token.start
    let walk ← walk.skipComma isFirst problem
    let token := walk.token
    let later := walk.expect (.flowItem start false)
    match token.kind with
    | .broken flaw => .error flaw
    | .key => .ok (⟨.mappingStart none none, token.start⟩, later.skip.expect .pairKey)
    | .flowSequenceEnd => finish walk
    | _ => later.readNode false false

/-- The key of a pair in a flow sequence. -/
def pairKey (walk : Walk) : Step :=
  let token := walk.token
  let walk := walk.expect .pairValue
  match token.kind with
  | .broken flaw => .error flaw
  | .value | .flowEntry | .flowSequenceEnd => walk.skip.nothingAt token.stop
  | _ => walk.readNode false false

/-- A value behind a colon in a flow collection that `close` ends, if one is there. -/
def flowValueAfter (walk : Walk) (close : TokenKind) : Step :=
  let token := walk.token
  match token.kind with
  | .broken flaw => .error flaw
  | .value =>
    let after := walk.skip
    match after.token.kind with
    | .broken flaw => .error flaw
    | kind =>
      if kind = .flowEntry ∨ kind = close then after.nothingAt after.token.start
      else after.readNode false false
  | _ => walk.nothingAt token.start

/-- The next key of a flow mapping, or its end. -/
def flowKey (walk : Walk) (start : Mark) (isFirst : Bool) : Step := do
  let finish (walk : Walk) : Step := .ok (⟨.mappingEnd, walk.token.start⟩, walk.skip)
  if walk.token.kind = .flowMappingEnd then finish walk
  else
    let problem := Flaw.during .flowMapping start .flowMappingEnd walk.token.start
    let walk ← walk.skipComma isFirst problem
    let token := walk.token
    match token.kind with
    | .broken flaw => .error flaw
    | .key =>
      let after := walk.skip.expect (.flowValue start)
      match after.token.kind with
      | .broken flaw => .error flaw
      | .value | .flowEntry | .flowMappingEnd => after.nothingAt after.token.start
      | _ => after.readNode false false
    | .flowMappingEnd => finish walk
    | _ => ((walk.expect (.flowKey start false)).expect .flowNoValue).readNode false false

/-- The next event: what the innermost expectation asks for. -/
def step (walk : Walk) : Step :=
  match walk.expected with
  | [] => .error (.plain .nodeContent walk.token.start)
  | expectation :: expected =>
    let rest := { walk with expected := expected }
    match expectation with
    | .root => rest.readNode true false
    | .blockItem start => rest.blockItem start
    | .plainItem => rest.plainItem
    | .blockKey start => rest.blockKey start
    | .blockValue start => rest.blockValue start
    | .flowItem start isFirst => rest.flowItem start isFirst
    | .pairKey => rest.pairKey
    | .pairValue => (rest.expect .pairEnd).flowValueAfter .flowSequenceEnd
    | .pairEnd =>
      match rest.token.kind with
      | .broken flaw => .error flaw
      | _ => .ok (⟨.mappingEnd, rest.token.start⟩, rest)
    | .flowKey start isFirst => rest.flowKey start isFirst
    | .flowValue start => (rest.expect (.flowKey start false)).flowValueAfter .flowMappingEnd
    | .flowNoValue =>
      match rest.token.kind with
      | .broken flaw => .error flaw
      | _ => rest.nothingAt rest.token.start

/-- The events of what is expected, found in at most so many steps, then either the flaw
at which they break off or the tokens behind them. -/
def events : Nat → Walk → List Placed × Except Flaw (List Token)
  | 0, walk => ([], .ok walk.tokens)
  | steps + 1, walk =>
    if walk.expected = [] then ([], .ok walk.tokens)
    else
      match walk.step with
      | .error flaw => ([], .error flaw)
      | .ok (placed, next) =>
        let (later, outcome) := events steps next
        (placed :: later, outcome)

end Walk

end LiveShader.Yaml
