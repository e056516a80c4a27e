import LiveShader.CommandLine.Check
import LiveShader.Resolution.Expansion

/-!
# Showing a unit

`flatten` shows the flattened unit of an entry file as it would be compiled, or its line
map: which lines each file owns, and which directive each placeholder stands for.
-/

namespace LiveShader.CommandLine

/-- One segment in a line map. -/
def segmentLine (segment : Segment) : String :=
  "  " ++ toString segment.start ++ "-" ++ toString segment.stop ++ " <- " ++
    toString segment.localStart ++ "-" ++ toString (segment.localLine segment.stop)

/-- One file in a line map. -/
def contributorLines (contributor : Contributor) : List String :=
  let head := match contributor.extent? with
    | some extent =>
      contributor.display ++ ": lines " ++ toString extent.first ++ "-" ++
        toString extent.last ++ " (" ++ toString contributor.ownedLines ++ " own)"
    | none => contributor.display ++ ": no own lines"
  head :: contributor.segments.map segmentLine

/-- One placeholder in a line map. -/
def placeholderLine (provenance : Provenance) (placeholder : Placeholder) : String :=
  let includer := (provenance.contributors[placeholder.contributor]?).elim "?" Contributor.display
  "placeholder " ++ toString placeholder.line ++ " <- " ++ includer ++ ":" ++
    toString placeholder.localLine

/-- The line map of a unit. -/
def lineMap (provenance : Provenance) : List String :=
  (toString provenance.totalLines ++ " line(s) from " ++ toString provenance.size ++ " file(s)") ::
    provenance.contributors.flatMap contributorLines ++
    provenance.placeholders.map (placeholderLine provenance)

/-- Carry out a call of `flatten`. -/
def FlattenCall.result (workspace : Workspace) (call : FlattenCall) : Except Failure String := do
  let settings ← settingsOf workspace call.config
  match workspace.resolve call.entry settings.limits with
  | .error failure => .error (loadFailure (.resolve failure.error) none)
  | .ok resolution =>
    .ok (if call.map then Text.unlines (lineMap resolution.provenance) else resolution.unit.text)

/-- What a call of `flatten` puts out. -/
def FlattenCall.output (workspace : Workspace) (call : FlattenCall) : Output :=
  match call.result workspace with
  | .error failure => .failed failure false []
  | .ok text => .success text

end LiveShader.CommandLine
