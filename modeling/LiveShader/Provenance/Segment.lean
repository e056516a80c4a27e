/-!
# Segments

A segment is a run of consecutive lines of a flattened unit that one file owns, where
the lines are consecutive in the file as well. Lines count from one in both, and zero
never names a line with content.
-/

namespace LiveShader

/-- A run of flattened lines, and the line of the file that the first of them is. -/
structure Segment where
  start : Nat
  stop : Nat
  localStart : Nat
deriving DecidableEq, Inhabited

/-- Flattened lines from the first to the last, both included. -/
structure Extent where
  first : Nat
  last : Nat
deriving DecidableEq

namespace Segment

/-- The flattened line lies in the segment. -/
def contains (segment : Segment) (line : Nat) : Bool :=
  segment.start ≤ line && line ≤ segment.stop

/-- The line of the file that a flattened line of the segment is. -/
def localLine (segment : Segment) (line : Nat) : Nat :=
  line - segment.start + segment.localStart

/-- How many lines the segment has. -/
def lineCount (segment : Segment) : Nat :=
  segment.stop - segment.start + 1

/-- The segment of one line. -/
def single (line localLine : Nat) : Segment :=
  ⟨line, line, localLine⟩

/-- The line goes on where the segment ends, in the unit and in the file. -/
def continuesWith (segment : Segment) (line localLine : Nat) : Bool :=
  segment.stop + 1 = line && segment.localLine segment.stop + 1 = localLine

/-- Add a line behind segments in their order: the last segment grows if the line
continues it, so that segments are as long as they can be. -/
def push : List Segment → Nat → Nat → List Segment
  | [], line, localLine => [single line localLine]
  | [last], line, localLine =>
    if last.continuesWith line localLine then [{ last with stop := line }]
    else [last, single line localLine]
  | first :: second :: rest, line, localLine => first :: push (second :: rest) line localLine

end Segment

end LiveShader
