import LiveShader.Provenance
import LiveShader.SourceLine
import LiveShader.Text.Lines

/-!
# What a resolution is

A resolution turns an entry file into one flattened unit. It succeeds with the unit and
its provenance, or fails with a cause and the stamps of all files that it touched.
-/

namespace LiveShader

/-- How far one unit may reach: the deepest nesting below the entry file, and how many
distinct files, the entry included. -/
structure ResolutionLimits where
  maxDepth : Nat
  maxFiles : Nat
deriving DecidableEq

/-- The limits where none are given. -/
def ResolutionLimits.standard : ResolutionLimits := ⟨64, 1024⟩

/-- Why a resolution failed. An includer is given with its line. -/
inductive ResolutionError where
  | missingFile (path : Path) (includedFrom : Option (Path × Nat))
  | malformedInclude (file : Path) (line : Nat) (text : String)
  | tooManyIncludes (file : Path) (limit : Nat)
  | unreadable (path : Path) (cause : String)
deriving DecidableEq

namespace ResolutionError

/-- The stable name of the kind of failure. -/
def code : ResolutionError → String
  | .missingFile .. => "MISSING_FILE"
  | .malformedInclude .. => "MALFORMED_INCLUDE"
  | .tooManyIncludes .. => "TOO_MANY_INCLUDES"
  | .unreadable .. => "IO_ERROR"

/-- The wording of a failure. -/
def message : ResolutionError → String
  | .missingFile path none => "\"" ++ path.text ++ "\" doesn't exist!"
  | .missingFile path (some (file, line)) =>
    "\"" ++ path.text ++ "\" doesn't exist! (included from " ++ file.text ++ ":" ++
      toString line ++ ")"
  | .malformedInclude file line text =>
    file.text ++ " => " ++ toString line ++
      ": malformed include, expected #include \"path\": '" ++ text ++ "'"
  | .tooManyIncludes file limit =>
    "too many includes while resolving " ++ file.text ++ " (limit " ++ toString limit ++ ")"
  | .unreadable path cause => "failed to read " ++ path.text ++ ": " ++ cause

/-- The fault of the file system behind a failure. -/
def cause? : ResolutionError → Option String
  | .unreadable _ cause => some cause
  | _ => none

end ResolutionError

/-- A flattened text, line by line. -/
structure FlatUnit where
  lines : List String
deriving DecidableEq

namespace FlatUnit

/-- How many lines the unit has. -/
def lineCount (unit : FlatUnit) : Nat :=
  unit.lines.length

/-- A line by its number. Lines count from one. -/
def line? (unit : FlatUnit) (line : Nat) : Option String :=
  if line = 0 then none else unit.lines[line - 1]?

/-- The text submitted to a compiler: each line, ended by a line feed. -/
def text (unit : FlatUnit) : String :=
  Text.unlines unit.lines

end FlatUnit

/-- A flattened unit and where its lines come from. -/
structure Resolution where
  unit : FlatUnit
  provenance : Provenance

/-- Why no unit came about, and the stamps of all files touched on the way: once one of
them is stale, another attempt may end differently. -/
structure FailedResolution where
  error : ResolutionError
  stamps : List Stamp

end LiveShader
