import LiveShader.Compiler
import LiveShader.Diagnostic.Report
import LiveShader.Resolution.Expansion

/-!
# Building one unit

A build resolves an entry file and compiles the flattened unit as one stage. Where the
compiler refuses it, its diagnostics come back as a report on the source files.
-/

namespace LiveShader

/-- A resolution and what its unit compiled to. -/
structure Build (Compiled : Type) where
  resolution : Resolution
  compiled : Compiled

/-- Why a build did not come about. -/
inductive FailedBuild where
  | resolve (failure : FailedResolution)
  | compile (resolution : Resolution) (report : Report)

/-- How a build ended: its result, what was noted, and the compiler's state after it. -/
structure BuildAttempt (State Compiled : Type) where
  result : Except FailedBuild (Build Compiled)
  journal : List Journal.Entry
  state : State

/-- Resolve an entry file and compile its unit as a stage. -/
def Workspace.build {State Compiled Program : Type} (workspace : Workspace)
    (compiler : Compiler State Compiled Program) (state : State) (entry : Path) (stage : Stage)
    (limits : ResolutionLimits) (format : DiagnosticFormat) : BuildAttempt State Compiled :=
  let attempt := workspace.attemptResolve entry limits
  match attempt.result with
  | .error failure => ⟨.error (.resolve failure), attempt.journal, state⟩
  | .ok resolution =>
    match compiler.compile state resolution.unit.text stage with
    | (.ok compiled, next) => ⟨.ok ⟨resolution, compiled⟩, attempt.journal, next⟩
    | (.error raw, next) =>
      ⟨.error (.compile resolution (Report.ofOutput raw resolution.provenance format)),
        attempt.journal, next⟩

end LiveShader
