import LiveShader.Text.Split

/-!
# Lines of a text

A line ends at a line feed, and one carriage return before the line feed belongs
to the ending. What follows the last line feed is a line only if it is not empty,
and keeps its carriage returns, because no line feed ends it.
-/

namespace LiveShader.Text

/-- A terminated line without the carriage return of its ending. -/
def dropReturn (line : List Char) : List Char :=
  if line.getLast? = some '\r' then line.dropLast else line

/-- The lines of pieces cut at line feeds: all but the last piece were terminated. -/
def linesOfPieces : List (List Char) → List (List Char)
  | [] => []
  | [last] => if last = [] then [] else [last]
  | piece :: next :: pieces => dropReturn piece :: linesOfPieces (next :: pieces)

/-- The lines of a text, without their endings. -/
def lines (text : String) : List String :=
  (linesOfPieces (split '\n' text.toList)).map String.ofList

/-- The pieces between line feeds, as a reader sees them who knows no other ending:
a final line feed leaves one empty piece after it. -/
def feeds (text : String) : List String :=
  (split '\n' text.toList).map String.ofList

/-- The text whose lines these are, each ended by a line feed. -/
def unlines (lines : List String) : String :=
  String.join (lines.map (· ++ "\n"))

end LiveShader.Text
