import LiveShader.Yaml.Flaw

/-!
# YAML tokens

The tokens of a YAML text. Indentation is made explicit: a block collection has a token
where it starts and one where it ends. The list of tokens of a text ends with
`streamEnd`, or with `broken` where the text could not be read on.
-/

namespace LiveShader.Yaml

/-- How a scalar is written. -/
inductive Style where
  | plain
  | singleQuoted
  | doubleQuoted
  | literal
  | folded
deriving DecidableEq

/-- What a token is. -/
inductive TokenKind where
  | versionDirective (major minor : Nat)
  | tagDirective (handle lead : String)
  | documentStart
  | documentEnd
  | blockSequenceStart
  | blockMappingStart
  | blockEnd
  | flowSequenceStart
  | flowSequenceEnd
  | flowMappingStart
  | flowMappingEnd
  | blockEntry
  | flowEntry
  | key
  | value
  | alias (name : String)
  | anchor (name : String)
  | tag (handle suffix : String)
  | scalar (style : Style) (text : String)
  | streamEnd
  | broken (flaw : Flaw)
deriving DecidableEq

/-- A token, from its start to the place behind it. -/
structure Token where
  kind : TokenKind
  start : Mark
  stop : Mark
deriving DecidableEq

end LiveShader.Yaml
