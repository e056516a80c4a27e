import LiveShader.Text.Split

/-!
# Paths

A path is its text. What it names is decided by its `components`: repeated and
trailing slashes do not count, nor does `.` after the start of the path, while a
leading `./` and every `..` do. Operations keep the text of the components that
they keep, so that a path is shown as it was written.

Nothing here reads a file tree, and `..` is never cancelled: what it leads to
depends on the links of the tree.
-/

namespace LiveShader

/-- A file path, as written. -/
structure Path where
  text : String
deriving DecidableEq, Inhabited

namespace Path

/-- What one step of a path names. -/
inductive Component where
  | root
  | here
  | up
  | name (text : String)
deriving DecidableEq

/-- Where the first step of a path starts: at the root (`/`), at a leading `.`, or at
neither. -/
inductive Anchor where
  | root
  | here
  | bare
deriving DecidableEq

/-- A path cut at its slashes, behind its anchor. -/
structure Layout where
  anchor : Anchor
  body : List (List Char)
deriving DecidableEq

/-- A piece that names no step: an empty one or `.`. -/
def isFiller (piece : List Char) : Bool :=
  piece = [] || piece = ['.']

/-- The step that a piece behind the anchor names, if it names one. -/
def component? (piece : List Char) : Option Component :=
  if isFiller piece then none
  else if piece = ['.', '.'] then some .up
  else some (.name (String.ofList piece))

/-- The step that the anchor names. -/
def Anchor.components : Anchor → List Component
  | .root => [.root]
  | .here => [.here]
  | .bare => []

/-- A path cut into anchor and pieces. -/
def layout (path : Path) : Layout :=
  match path.text.toList with
  | '/' :: rest => ⟨.root, Text.split '/' rest⟩
  | characters =>
    match Text.split '/' characters with
    | ['.'] :: body => ⟨.here, body⟩
    | body => ⟨.bare, body⟩

/-- The path with this anchor and these pieces. -/
def ofLayout (layout : Layout) : Path :=
  match layout.anchor with
  | .root => ⟨String.ofList ('/' :: Text.join '/' layout.body)⟩
  | .here => ⟨String.ofList (Text.join '/' (['.'] :: layout.body))⟩
  | .bare => ⟨String.ofList (Text.join '/' layout.body)⟩

/-- The steps of a path. -/
def components (path : Path) : List Component :=
  path.layout.anchor.components ++ path.layout.body.filterMap component?

/-- Two paths with the same steps, however they are written. -/
def Same (left right : Path) : Prop :=
  left.components = right.components

instance (left right : Path) : Decidable (Same left right) :=
  inferInstanceAs (Decidable (left.components = right.components))

/-- A path that starts at the root. -/
def isAbsolute (path : Path) : Bool :=
  path.text.toList.head? = some '/'

/-- Go on from `base` along `next`. An absolute `next` starts anew, and nothing is
normalised. -/
def join (base next : Path) : Path :=
  if next.isAbsolute then next
  else if base.text.toList.getLast?.all (· = '/') then ⟨base.text ++ next.text⟩
  else ⟨base.text ++ "/" ++ next.text⟩

/-- The path without its last step, and without fillers at its end. The root and the
empty path have no last step to drop. -/
def parent? (path : Path) : Option Path :=
  let layout := path.layout
  match Text.dropEndWhile isFiller layout.body, layout.anchor with
  | [], .here => some ⟨""⟩
  | [], _ => none
  | body, anchor => some (ofLayout ⟨anchor, Text.dropEndWhile isFiller body.dropLast⟩)

/-- Pieces behind the first `count` steps that pieces name. -/
def dropSteps : Nat → List (List Char) → List (List Char)
  | 0, pieces => pieces
  | _ + 1, [] => []
  | count + 1, piece :: pieces =>
    if isFiller piece then dropSteps (count + 1) pieces else dropSteps count pieces

/-- What remains of a path behind the steps of `base`, if it begins with them. Fillers
around the remainder are dropped. -/
def stripPrefix? (path base : Path) : Option Path :=
  let layout := path.layout
  let steps := base.components.length
  if base.components.isPrefixOf path.components then
    if steps = 0 then
      some (ofLayout { layout with body := Text.dropEndWhile isFiller layout.body })
    else
      let rest := dropSteps (steps - layout.anchor.components.length) layout.body
      some (ofLayout ⟨.bare, Text.dropEndWhile isFiller (rest.dropWhile isFiller)⟩)
  else
    none

/-- The name shown for a path: relative to `root` where it lies below it, otherwise
as it is. -/
def displayBelow (root path : Path) : String :=
  ((path.stripPrefix? root).getD path).text

/-- The order of single steps: the root, then `.`, then `..`, then names by their
characters. -/
def Component.compare : Component → Component → Ordering
  | .name left, .name right => Ord.compare left right
  | left, right => Ord.compare (rank left) (rank right)
where
  /-- The place of a step's kind. -/
  rank : Component → Nat
    | .root => 0
    | .here => 1
    | .up => 2
    | .name _ => 3

/-- The order of paths, step by step. -/
def compare (left right : Path) : Ordering :=
  compareSteps left.components right.components
where
  /-- The dictionary order on lists of steps. -/
  compareSteps : List Component → List Component → Ordering
    | [], [] => .eq
    | [], _ :: _ => .lt
    | _ :: _, [] => .gt
    | left :: lefts, right :: rights =>
      (Component.compare left right).then (compareSteps lefts rights)

end Path

end LiveShader
