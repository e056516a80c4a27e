/-!
# Source lines

A line of a source file is code unless `#include` occurs in it. The first occurrence
decides: it needs a path between the next two double quotes of the line, and that path
may not be empty. Text before the directive, between it and the path, and after the
path does not count, a second directive included.
-/

namespace LiveShader

/-- What a line of a source file is. -/
inductive SourceLine where
  | code
  | inclusion (target : String)
  | malformed
deriving DecidableEq

namespace SourceLine

/-- The mark of an include directive. -/
def marker : List Char := "#include".toList

/-- What follows the first marker of a line, if the line has one. -/
def afterMarker? : List Char → Option (List Char)
  | [] => none
  | head :: tail =>
    if marker.isPrefixOf (head :: tail) then some ((head :: tail).drop marker.length)
    else afterMarker? tail

/-- The text between the first two double quotes, if there are two. -/
def firstQuoted? (text : List Char) : Option (List Char) :=
  match text.dropWhile (· ≠ '"') with
  | [] => none
  | _ :: inside =>
    if '"' ∈ inside then some (inside.takeWhile (· ≠ '"')) else none

/-- What a line of a source file is. -/
def classify (line : String) : SourceLine :=
  match afterMarker? line.toList with
  | none => .code
  | some rest =>
    match firstQuoted? rest with
    | none => .malformed
    | some target => if target = [] then .malformed else .inclusion (String.ofList target)

end SourceLine

end LiveShader
