import LiveShader.Yaml.Event

/-!
# YAML documents

The first document of a text, item by item, with its aliases linked to its anchors. Where
the text breaks off within it, the items up to there are known, and so is the flaw. Of
what is behind the document only is known whether there is anything.

The number of an anchor is how many names were anchored before it. An anchor of a name
that had one is an anchor of its own, so two anchors may come to share a number; an alias
means the last anchor with the number.
-/

namespace LiveShader.Yaml

/-- A scalar as it is written. -/
structure Scalar where
  tag : Option String
  style : Style
  text : String
deriving DecidableEq

/-- A part of a document. An alias names an anchor by its number. -/
inductive Item where
  | alias (anchor : Nat)
  | scalar (scalar : Scalar)
  | sequenceStart (tag : Option String)
  | sequenceEnd
  | mappingStart (tag : Option String)
  | mappingEnd
deriving DecidableEq

/-- A part of a document and where it is. -/
structure PlacedItem where
  item : Item
  mark : Mark
deriving DecidableEq

/-- A document: its items, at which item each anchor is, the last anchor first, the flaw
at which the items break off, and whether another document follows. -/
structure Document where
  items : List PlacedItem
  anchors : List (Nat × Nat)
  flaw : Option Flaw
  hasMore : Bool

/-- Links while they are made: which number each name has, the last anchor first, and the
items so far. -/
structure Linking where
  numbers : List (String × Nat)
  anchors : List (Nat × Nat)
  items : List PlacedItem

namespace Linking

/-- Nothing linked yet. -/
def empty : Linking := ⟨[], [], []⟩

/-- Anchor the next item, if a name is given. -/
def anchor (linking : Linking) (name : Option String) : Linking :=
  match name with
  | none => linking
  | some name =>
    let number := linking.numbers.length
    { linking with
      numbers := (name, number) :: linking.numbers.filter (·.1 ≠ name)
      anchors := (number, linking.items.length) :: linking.anchors }

/-- Add an item. -/
def push (linking : Linking) (item : Item) (mark : Mark) : Linking :=
  { linking with items := linking.items ++ [⟨item, mark⟩] }

/-- Link events one by one, up to an alias of a name that has no anchor. -/
def link (linking : Linking) : List Placed → Linking × Option Flaw
  | [] => (linking, none)
  | ⟨event, mark⟩ :: events =>
    match event with
    | .alias name =>
      match linking.numbers.lookup name with
      | some number => (linking.push (.alias number) mark).link events
      | none => (linking, some (.plain .unknownAnchor mark))
    | .scalar name tag style text =>
      ((linking.anchor name).push (.scalar ⟨tag, style, text⟩) mark).link events
    | .sequenceStart name tag =>
      ((linking.anchor name).push (.sequenceStart tag) mark).link events
    | .sequenceEnd => (linking.push .sequenceEnd mark).link events
    | .mappingStart name tag =>
      ((linking.anchor name).push (.mappingStart tag) mark).link events
    | .mappingEnd => (linking.push .mappingEnd mark).link events

end Linking

namespace Document

/-- The handles that need no directive. -/
def standardHandles : List (String × String) :=
  [("!", "!"), ("!!", "tag:yaml.org,2002:")]

/-- The handles that the directives in front of a document declare, and the tokens behind
the directives. -/
def readDirectives (hasVersion : Bool) (handles : List (String × String)) :
    List Token → Except Flaw (List (String × String) × List Token)
  | [] => .ok (handles, [])
  | token :: tokens =>
    match token.kind with
    | .versionDirective major minor =>
      if hasVersion then .error (.plain .duplicateVersion token.start)
      else if major ≠ 1 ∨ (minor ≠ 1 ∧ minor ≠ 2) then
        .error (.plain .incompatibleVersion token.start)
      else readDirectives true handles tokens
    | .tagDirective handle lead =>
      if (handles.lookup handle).isSome then .error (.plain .duplicateTag token.start)
      else readDirectives hasVersion (handles ++ [(handle, lead)]) tokens
    | .broken flaw => .error flaw
    | _ => .ok (handles, token :: tokens)

/-- A document may end without its end mark. -/
def skipEnds (tokens : List Token) : List Token :=
  tokens.dropWhile (·.kind = .documentEnd)

/-- There is something behind a document. -/
def isMore (tokens : List Token) : Bool :=
  match (skipEnds tokens).head? with
  | some token => token.kind ≠ .streamEnd
  | none => false

/-- The document whose events a walk finds. -/
def ofWalk (walk : Walk) : Document :=
  let (events, outcome) := walk.events (4 * walk.tokens.length + 4)
  let (linking, unlinked) := Linking.empty.link events
  let ended := match outcome with
    | .error flaw => (some flaw, false)
    | .ok tokens =>
      match tokens.head?.map Token.kind with
      | some (.broken flaw) => (some flaw, false)
      | _ => (none, isMore tokens)
  match unlinked with
  | some flaw => ⟨linking.items, linking.anchors, some flaw, false⟩
  | none => ⟨linking.items, linking.anchors, ended.1, ended.2⟩

/-- A document without items. -/
def bare (flaw : Option Flaw) : Document :=
  ⟨[], [], flaw, false⟩

/-- The document behind its start mark, which ended at `mark`. It is one scalar that is
not written, if the next mark follows. -/
def ofContent (handles : List (String × String)) (mark : Mark) (tokens : List Token) :
    Document :=
  match tokens with
  | [] => ⟨[⟨.scalar ⟨none, .plain, ""⟩, mark⟩], [], none, false⟩
  | token :: _ =>
    match token.kind with
    | .broken flaw => bare (some flaw)
    | .versionDirective .. | .tagDirective .. | .documentStart | .documentEnd | .streamEnd =>
      ⟨[⟨.scalar ⟨none, .plain, ""⟩, token.start⟩], [], none, isMore tokens⟩
    | _ => ofWalk ⟨[.root], tokens, handles⟩

/-- The first document among the tokens of a text. -/
def ofTokens (tokens : List Token) : Document :=
  match tokens.head? with
  | none => bare none
  | some token =>
    match token.kind with
    | .streamEnd => bare none
    | .versionDirective .. | .tagDirective .. | .documentStart =>
      match readDirectives false [] tokens with
      | .error flaw => bare (some flaw)
      | .ok (handles, rest) =>
        match rest with
        | ⟨.documentStart, _, stop⟩ :: content =>
          ofContent (handles ++ standardHandles) stop content
        | other :: _ => bare (some (.plain .documentStart other.start))
        | [] => bare none
    | _ => ofWalk ⟨[.root], tokens, standardHandles⟩

/-- The first document of a text. A text without any has no items. -/
def ofText (text : String) : Document :=
  ofTokens (Token.ofText text)

/-- The items from an anchor on. -/
def target (document : Document) (anchor : Nat) : List PlacedItem :=
  match document.anchors.lookup anchor with
  | some position => document.items.drop position
  | none => []

end Document

end LiveShader.Yaml
