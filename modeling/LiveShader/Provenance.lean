import LiveShader.Provenance.Segment
import LiveShader.Stamp

/-!
# Provenance

Where the lines of a flattened unit come from. Each line is owned by the file that
contributed it, or is a blank placeholder for an include of a file that the unit
already holds. `locate` knows owners alone; `attribution` also names the directive that
left a placeholder.

`Provenance` grows by `addContributor`, `addOwned` and `addPlaceholder`, in the order
in which lines are emitted.
-/

namespace LiveShader

/-- One file of a unit and the lines it owns. -/
structure Contributor where
  path : Path
  display : String
  modified : Option Nat
  segments : List Segment

namespace Contributor

/-- From the first line that the file owns to the last. -/
def extent? (contributor : Contributor) : Option Extent :=
  match contributor.segments.head?, contributor.segments.getLast? with
  | some first, some last => some ⟨first.start, last.stop⟩
  | _, _ => none

/-- How many lines the file owns. -/
def ownedLines (contributor : Contributor) : Nat :=
  contributor.segments.foldr (fun segment count => segment.lineCount + count) 0

/-- The file owns one more line. -/
def addOwned (contributor : Contributor) (line localLine : Nat) : Contributor :=
  { contributor with segments := Segment.push contributor.segments line localLine }

/-- The line of the file that a flattened line is, if the file owns it. -/
def localLine? (contributor : Contributor) (line : Nat) : Option Nat :=
  (contributor.segments.find? (·.contains line)).map (·.localLine line)

/-- The stamp of the file as it was read. -/
def stamp (contributor : Contributor) : Stamp :=
  ⟨contributor.path, contributor.modified⟩

end Contributor

/-- A blank line in place of a repeated include: the flattened line, and the index
of the includer and the line of its directive. -/
structure Placeholder where
  line : Nat
  contributor : Nat
  localLine : Nat
deriving DecidableEq

/-- A line of a file of the unit, which is the contributor with this index. -/
structure Place where
  index : Nat
  contributor : Contributor
  localLine : Nat

/-- Whom a flattened line belongs to. -/
inductive Attribution where
  | own (place : Place)
  | enclosing (place : Place)
  | unresolved

/-- Where the lines of a unit come from. Names are shown relative to `root`. -/
structure Provenance where
  root : Path
  contributors : List Contributor
  placeholders : List Placeholder
  totalLines : Nat

namespace Provenance

/-- No file and no line. -/
def empty (root : Path) : Provenance :=
  ⟨root, [], [], 0⟩

/-- How many files contribute. -/
def size (provenance : Provenance) : Nat :=
  provenance.contributors.length

/-- The contributor with a path, however the path is written. -/
def get? (provenance : Provenance) (path : Path) : Option Contributor :=
  provenance.contributors.find? fun contributor => contributor.path.Same path

/-- The file with the path contributes. -/
def contains (provenance : Provenance) (path : Path) : Bool :=
  (provenance.get? path).isSome

/-- The owner of a line. -/
def locate (provenance : Provenance) (line : Nat) : Option Place :=
  if line = 0 then none
  else
    provenance.contributors.zipIdx.findSome? fun (contributor, index) =>
      (contributor.localLine? line).map fun localLine => ⟨index, contributor, localLine⟩

/-- The directive that left a placeholder. -/
def directive? (provenance : Provenance) (line : Nat) : Option Place :=
  (provenance.placeholders.find? (·.line = line)).bind fun placeholder =>
    (provenance.contributors[placeholder.contributor]?).map fun contributor =>
      ⟨placeholder.contributor, contributor, placeholder.localLine⟩

/-- Whom a line belongs to: its owner, else the directive it stands for. -/
def attribution (provenance : Provenance) (line : Nat) : Attribution :=
  match provenance.locate line with
  | some place => .own place
  | none =>
    match provenance.directive? line with
    | some place => .enclosing place
    | none => .unresolved

/-- The stamps of all files. -/
def stamps (provenance : Provenance) : List Stamp :=
  provenance.contributors.map Contributor.stamp

/-- One more file, which owns no line yet. Its index is the size so far. -/
def addContributor (provenance : Provenance) (path : Path) (modified : Option Nat) : Provenance :=
  { provenance with
    contributors := provenance.contributors ++
      [⟨path, Path.displayBelow provenance.root path, modified, []⟩] }

/-- One more line, owned by a contributor. Its number is the new total. -/
def addOwned (provenance : Provenance) (index localLine : Nat) : Provenance :=
  let line := provenance.totalLines + 1
  { provenance with
    contributors := provenance.contributors.modify index (·.addOwned line localLine)
    totalLines := line }

/-- One more line, a placeholder for a directive of a contributor. Its number is the new
total. -/
def addPlaceholder (provenance : Provenance) (index localLine : Nat) : Provenance :=
  let line := provenance.totalLines + 1
  { provenance with
    placeholders := provenance.placeholders ++ [⟨line, index, localLine⟩]
    totalLines := line }

end Provenance

end LiveShader
