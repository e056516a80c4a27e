import LiveShader.CommandLine.Arguments
import LiveShader.CommandLine.Output
import LiveShader.Settings.File
import LiveShader.Shader

/-!
# Checking an entry file

`check` compiles an entry file and reports diagnostics per source file: a fragment stage
as part of a shader, so that it is linked as well, a vertex stage by itself.
-/

namespace LiveShader.CommandLine

/-- The settings of a call: those of the file it names, or of the one in the working
directory, or else the standard ones. -/
def settingsOf (workspace : Workspace) (config : Option Path) : Except Failure Settings :=
  (Settings.discover workspace config (Location.path workspace.directory)).map fun settings =>
    settings.getD Settings.standard

/-- The failure of a call that names no entry file where the settings name none either. -/
def missingEntry : Failure :=
  .ofError (.usage "MISSING_ENTRY"
    "no entry shader given; pass a path or set `entry` in gshader.yaml")

/-- The entry file of a call, and its settings. -/
def entryOf (workspace : Workspace) (entry config : Option Path) :
    Except Failure (Path × Settings) := do
  let settings ← settingsOf workspace config
  match entry.or settings.entry with
  | some entry => .ok (entry, settings)
  | none => .error missingEntry

/-- What `check` says of an entry file that compiles. -/
structure CheckSummary where
  entry : Path
  stage : Stage
  files : Nat
  lines : Nat
deriving DecidableEq

namespace CheckSummary

/-- A summary for a script. -/
def toJson (summary : CheckSummary) : Json :=
  Json.sorted <| .object
    [("ok", .bool true),
     ("entry", .string summary.entry.text),
     ("stage", .string summary.stage.name),
     ("files", .ofNat summary.files),
     ("lines", .ofNat summary.lines)]

/-- A summary in one line. -/
def text (summary : CheckSummary) : String :=
  "OK: " ++ summary.entry.text ++ " (" ++ summary.stage.name ++ ", " ++
    toString summary.files ++ " file(s), " ++ toString summary.lines ++ " line(s))"

end CheckSummary

/-- How a check ended: its summary, or why it failed and what to show before that. -/
abbrev CheckResult := Except (Failure × List String) CheckSummary

/-- The failure that a failed load is. -/
def loadFailure (error : LoadFailure) (report : Option Report) : Failure :=
  .ofError (.ofLoad error report)

section Compiling

variable {State Compiled Program : Type} (workspace : Workspace)
  (compiler : Compiler State Compiled Program) (state : State)

/-- A shader whose built-in vertex stage is compiled. -/
def preparedShader (settings : Settings) (format : Option DiagnosticFormat) :
    Except Failure (Shader State Compiled Program) :=
  let outcome := (Shader.new state settings.limits format).prepare compiler
  match outcome.result with
  | .ok _ => .ok outcome.shader
  | .error error => .error (loadFailure error none)

/-- Check an entry file as a fragment stage. -/
def checkFragment (entry : Path) (settings : Settings) (format : Option DiagnosticFormat) :
    CheckResult :=
  match preparedShader compiler state settings format with
  | .error failure => .error (failure, [])
  | .ok shader =>
    let outcome := shader.load compiler workspace entry
    match outcome.result with
    | .error error =>
      .error (loadFailure error outcome.shader.lastReport,
        (Signal.notices outcome.signals).map Notice.message)
    | .ok _ =>
      let resolution := outcome.shader.resolution
      .ok
        { entry := entry
          stage := .fragment
          files := resolution.elim 0 fun resolution => resolution.provenance.size
          lines := resolution.elim 0 fun resolution => resolution.unit.lineCount }

/-- Check an entry file as a stage by itself. -/
def checkStage (entry : Path) (stage : Stage) (settings : Settings)
    (format : Option DiagnosticFormat) : CheckResult :=
  let attempt :=
    workspace.build compiler state entry stage settings.limits (format.getD compiler.format)
  match attempt.result with
  | .ok build =>
    .ok
      { entry := entry
        stage := stage
        files := build.resolution.provenance.size
        lines := build.resolution.unit.lineCount }
  | .error (.resolve failure) => .error (loadFailure (.resolve failure.error) none, [])
  | .error (.compile _ report) =>
    .error (loadFailure (.compile report.count) (some report), [report.text])

/-- Carry out a call of `check`. -/
def CheckCall.result (call : CheckCall) : CheckResult :=
  match entryOf workspace call.entry call.config with
  | .error failure => .error (failure, [])
  | .ok (entry, settings) =>
    let format := call.format.or settings.format
    match call.stage with
    | .fragment => checkFragment workspace compiler state entry settings format
    | .vertex => checkStage workspace compiler state entry .vertex settings format

/-- What a call of `check` puts out. -/
def CheckCall.output (call : CheckCall) : Output :=
  match call.result workspace compiler state with
  | .error (failure, lines) => .failed failure call.json lines
  | .ok summary =>
    if call.json then .success (summary.toJson.pretty ++ "\n")
    else .success (summary.text ++ "\n")

end Compiling

end LiveShader.CommandLine
