import LiveShader.Diagnostic.Format
import LiveShader.Provenance
import LiveShader.Text.Lines

/-!
# Reports on a failed compilation

A report says the same as a compiler's output, in the lines that were edited. Every
line of the output that is not blank is relocated by itself, to a line of a source file
or to nowhere, and none is dropped, merged or moved.
-/

namespace LiveShader

/-- A diagnostic at a line of a source file. -/
structure Diagnostic where
  sourceFile : Path
  display : String
  localLine : Nat
  message : String
deriving DecidableEq

/-- What became of one line of compiler output: the text that stands for it, and the
diagnostic if a source file could be blamed. -/
structure Relocation where
  text : String
  diagnostic? : Option Diagnostic
deriving DecidableEq

/-- Compiler output, relocated to source files: its text, the diagnostics that found a
source line, and the lines that found none. -/
structure Report where
  text : String
  diagnostics : List Diagnostic
  unresolved : List String
deriving DecidableEq

/-- The message of a complaint: what follows the line number, without the colons and
blanks around it. -/
def Complaint.message (complaint : Complaint) : String :=
  Text.trimEnd
    (String.ofList (complaint.rest.toList.dropWhile fun character =>
      character = ':' || Text.isBlank character))

namespace Relocation

/-- A line at a place in a source file. -/
def placed (complaint : Complaint) (place : Place) : Relocation where
  text :=
    complaint.lead ++ place.contributor.display ++ " => " ++ toString place.localLine ++
      complaint.rest
  diagnostic? := some
    { sourceFile := place.contributor.path
      display := place.contributor.display
      localLine := place.localLine
      message := complaint.message }

/-- What becomes of one line of compiler output. Line zero is no line. -/
def ofLine (provenance : Provenance) (format : DiagnosticFormat) (line : String) : Relocation :=
  match format.parse? line with
  | none => ⟨line, none⟩
  | some complaint =>
    if complaint.line = 0 then ⟨line, none⟩
    else
      match provenance.attribution complaint.line with
      | .own place | .enclosing place => placed complaint place
      | .unresolved =>
        ⟨complaint.lead ++ "<unresolved> line " ++ toString complaint.line ++ complaint.rest,
          none⟩

end Relocation

namespace Report

/-- The first line of every report. -/
def header : String := "Shader compilation error"

/-- The report of lines that were relocated. -/
def ofRelocations (relocations : List Relocation) : Report where
  text := header ++ String.join (relocations.map fun relocation => "\n" ++ relocation.text)
  diagnostics := relocations.filterMap Relocation.diagnostic?
  unresolved := (relocations.filter (·.diagnostic?.isNone)).map Relocation.text

/-- The lines of compiler output that say something. -/
def spokenLines (raw : String) : List String :=
  (Text.lines raw).filter fun line => !Text.allBlank line

/-- The report on compiler output for a unit with this provenance. -/
def ofOutput (raw : String) (provenance : Provenance) (format : DiagnosticFormat) : Report :=
  ofRelocations ((spokenLines raw).map (Relocation.ofLine provenance format))

/-- How many lines of output the report accounts for. -/
def count (report : Report) : Nat :=
  report.diagnostics.length + report.unresolved.length

end Report

end LiveShader
