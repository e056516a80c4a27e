import LiveShader.Yaml.Cursor

/-!
# Flaws of a YAML text

Why a text is not YAML: a problem, where it was met, and what was being read there.
-/

namespace LiveShader.Yaml

/-- What was being read when a problem was met. -/
inductive Activity where
  | token
  | simpleKey
  | directive
  | versionDirective
  | tagDirective
  | tag
  | anchor
  | alias
  | plainScalar
  | quotedScalar
  | escape
  | blockScalar
  | node
  | blockNode
  | flowNode
  | blockSequence
  | blockMapping
  | flowSequence
  | flowMapping
deriving DecidableEq

/-- The wording of an activity. -/
def Activity.text : Activity → String
  | .token => "while scanning for the next token"
  | .simpleKey => "while scanning a simple key"
  | .directive => "while scanning a directive"
  | .versionDirective => "while scanning a %YAML directive"
  | .tagDirective => "while scanning a %TAG directive"
  | .tag => "while scanning a tag"
  | .anchor => "while scanning an anchor"
  | .alias => "while scanning an alias"
  | .plainScalar => "while scanning a plain scalar"
  | .quotedScalar => "while scanning a quoted scalar"
  | .escape => "while parsing a quoted scalar"
  | .blockScalar => "while scanning a block scalar"
  | .node => "while parsing a node"
  | .blockNode => "while parsing a block node"
  | .flowNode => "while parsing a flow node"
  | .blockSequence => "while parsing a block collection"
  | .blockMapping => "while parsing a block mapping"
  | .flowSequence => "while parsing a flow sequence"
  | .flowMapping => "while parsing a flow mapping"

/-- Why a text is not YAML. -/
inductive Problem where
  | controlCharacter
  | noToken
  | keyWithoutColon
  | misplacedEntry
  | misplacedKey
  | misplacedValue
  | directiveName
  | directiveNameEnd
  | unknownDirective
  | lineEnd
  | versionDot
  | versionNumber
  | versionLength
  | tagMark
  | tagUri
  | tagClose
  | tagEnd
  | blank
  | uriOctet
  | uriLeading
  | uriTrailing
  | anchorName
  | tabIndentation
  | unexpectedColon
  | documentBoundary
  | endOfStream
  | unknownEscape
  | hexDigits
  | invalidCode
  | zeroIndentation
  | tabInBlock
  | duplicateVersion
  | incompatibleVersion
  | duplicateTag
  | documentStart
  | undefinedHandle
  | nodeContent
  | blockEntry
  | blockKey
  | flowSequenceEnd
  | flowMappingEnd
  | unknownAnchor
deriving DecidableEq

/-- The wording of a problem. -/
def Problem.text : Problem → String
  | .controlCharacter => "control characters are not allowed"
  | .noToken => "found character that cannot start any token"
  | .keyWithoutColon => "could not find expected ':'"
  | .misplacedEntry => "block sequence entries are not allowed in this context"
  | .misplacedKey => "mapping keys are not allowed in this context"
  | .misplacedValue => "mapping values are not allowed in this context"
  | .directiveName => "could not find expected directive name"
  | .directiveNameEnd => "found unexpected non-alphabetical character"
  | .unknownDirective => "found unknown directive name"
  | .lineEnd => "did not find expected comment or line break"
  | .versionDot => "did not find expected digit or '.' character"
  | .versionNumber => "did not find expected version number"
  | .versionLength => "found extremely long version number"
  | .tagMark => "did not find expected '!'"
  | .tagUri => "did not find expected tag URI"
  | .tagClose => "did not find the expected '>'"
  | .tagEnd => "did not find expected whitespace or line break"
  | .blank => "did not find expected whitespace"
  | .uriOctet => "did not find URI escaped octet"
  | .uriLeading => "found an incorrect leading UTF-8 octet"
  | .uriTrailing => "found an incorrect trailing UTF-8 octet"
  | .anchorName => "did not find expected alphabetic or numeric character"
  | .tabIndentation => "found a tab character that violates indentation"
  | .unexpectedColon => "found unexpected ':'"
  | .documentBoundary => "found unexpected document indicator"
  | .endOfStream => "found unexpected end of stream"
  | .unknownEscape => "found unknown escape character"
  | .hexDigits => "did not find expected hexdecimal number"
  | .invalidCode => "found invalid Unicode character escape code"
  | .zeroIndentation => "found an indentation indicator equal to 0"
  | .tabInBlock => "found a tab character where an indentation space is expected"
  | .duplicateVersion => "found duplicate %YAML directive"
  | .incompatibleVersion => "found incompatible YAML document"
  | .duplicateTag => "found duplicate %TAG directive"
  | .documentStart => "did not find expected <document start>"
  | .undefinedHandle => "found undefined tag handle"
  | .nodeContent => "did not find expected node content"
  | .blockEntry => "did not find expected '-' indicator"
  | .blockKey => "did not find expected key"
  | .flowSequenceEnd => "did not find expected ',' or ']'"
  | .flowMappingEnd => "did not find expected ',' or '\x7d'"
  | .unknownAnchor => "unknown anchor"

/-- A problem, where it was met, and what was being read, with the place where that
began. A problem with single bytes is met at none of the places of the text, but at the
start and behind so many bytes. -/
structure Flaw where
  problem : Problem
  mark : Mark
  bytesBefore : Nat
  context : Option (Activity × Mark)
deriving DecidableEq

namespace Flaw

/-- A problem on its own. -/
def plain (problem : Problem) (mark : Mark) : Flaw :=
  ⟨problem, mark, 0, none⟩

/-- A problem met at `mark` while something was being read from `start` on. -/
def during (activity : Activity) (start : Mark) (problem : Problem) (mark : Mark) : Flaw :=
  ⟨problem, mark, 0, some (activity, start)⟩

/-- The mark is not at the start of the text. -/
def isInside (mark : Mark) : Bool :=
  mark.line != 0 || mark.column != 0

/-- The wording of a flaw. -/
def message (flaw : Flaw) : String :=
  let place :=
    if isInside flaw.mark then " at " ++ flaw.mark.text
    else if flaw.bytesBefore ≠ 0 then " at position " ++ toString flaw.bytesBefore
    else ""
  let context := match flaw.context with
    | none => ""
    | some (activity, start) =>
      let isElsewhere := start.line ≠ flaw.mark.line ∨ start.column ≠ flaw.mark.column
      ", " ++ activity.text ++
        if isInside start ∧ isElsewhere then " at " ++ start.text else ""
  flaw.problem.text ++ place ++ context

end Flaw

end LiveShader.Yaml
