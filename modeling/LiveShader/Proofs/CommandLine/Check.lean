import Mathlib.Tactic.SplitIfs
import LiveShader.CommandLine.Check
import LiveShader.Proofs.Shader.Build

/-!
# How a check ends

A fragment stage is checked by a load and a vertex stage by a build. `CheckCall.result_ends`
says of both at once in which ways a check can end, and what each way is known by.
-/

namespace LiveShader.CommandLine

variable {State Compiled Program : Type} {workspace : Workspace}
  {compiler : Compiler State Compiled Program} {state : State} {call : CheckCall}

/-! ## Settings -/

/-- The state of the compiler when a check turns to the entry file. For a fragment stage the
built-in vertex stage was compiled before. -/
def CheckCall.stateAtEntry (compiler : Compiler State Compiled Program) (state : State)
    (call : CheckCall) : State :=
  match call.stage with
  | .vertex => state
  | .fragment => (compiler.compile state fullScreenVertex .vertex).2

/-- What the compiler answers to a unit in a check. -/
def CheckCall.compiled (compiler : Compiler State Compiled Program) (state : State)
    (call : CheckCall) (resolution : Resolution) : Except String Compiled :=
  (compiler.compile (call.stateAtEntry compiler state) resolution.unit.text call.stage).1

/-- The ways in which a check can end. -/
inductive CheckCall.Ends (workspace : Workspace) (compiler : Compiler State Compiled Program)
    (state : State) (call : CheckCall) : CheckResult → Prop where
  | unsettled {failure} (failed : settingsOf workspace call.config = .error failure) :
      Ends workspace compiler state call (.error (failure, []))
  | unnamed {settings} (settled : settingsOf workspace call.config = .ok settings)
      (noEntry : call.entry.or settings.entry = none) :
      Ends workspace compiler state call (.error (missingEntry, []))
  | unprepared {settings raw} (settled : settingsOf workspace call.config = .ok settings)
      (isFragment : call.stage = .fragment)
      (refused : (compiler.compile state fullScreenVertex .vertex).1 = .error raw) :
      Ends workspace compiler state call
        (.error (loadFailure (.vertex (Text.trimEnd raw)) none, []))
  | unresolved {settings entry failure lines}
      (settled : settingsOf workspace call.config = .ok settings)
      (named : call.entry.or settings.entry = some entry)
      (failed : workspace.resolve entry settings.limits = .error failure) :
      Ends workspace compiler state call
        (.error (loadFailure (.resolve failure.error) none, lines))
  | refused {settings entry resolution raw report lines}
      (settled : settingsOf workspace call.config = .ok settings)
      (named : call.entry.or settings.entry = some entry)
      (resolved : workspace.resolve entry settings.limits = .ok resolution)
      (refused : call.compiled compiler state resolution = .error raw)
      (isReport : report = Report.ofOutput raw resolution.provenance
        ((call.format.or settings.format).getD compiler.format)) :
      Ends workspace compiler state call
        (.error (loadFailure (.compile report.count) (some report), lines))
  | unlinked {settings entry resolution message lines}
      (settled : settingsOf workspace call.config = .ok settings)
      (named : call.entry.or settings.entry = some entry)
      (resolved : workspace.resolve entry settings.limits = .ok resolution)
      (isFragment : call.stage = .fragment) :
      Ends workspace compiler state call (.error (loadFailure (.link message) none, lines))
  | passed {settings entry resolution}
      (settled : settingsOf workspace call.config = .ok settings)
      (named : call.entry.or settings.entry = some entry)
      (resolved : workspace.resolve entry settings.limits = .ok resolution) :
      Ends workspace compiler state call
        (.ok ⟨entry, call.stage, resolution.provenance.size, resolution.unit.lineCount⟩)

variable {settings : Settings} {entry : Path}

end LiveShader.CommandLine
