import LiveShader.Diagnostic.Format
import LiveShader.Path
import LiveShader.Resolution.Basic

/-!
# Settings of a project

What a project says about its shader: the entry file, the format of its compiler's
diagnostics, the limits of includes, and how eagerly files are watched.
-/

namespace LiveShader

/-- How eagerly files are watched, in milliseconds: the time between looks at their
times, and the quiet after which several changes count as one. -/
structure WatchTiming where
  pollInterval : Nat
  debounce : Nat
deriving DecidableEq

/-- The timing where none is given. -/
def WatchTiming.standard : WatchTiming := ⟨500, 50⟩

/-- What a project says about its shader. -/
structure Settings where
  entry : Option Path
  format : Option DiagnosticFormat
  limits : ResolutionLimits
  watch : WatchTiming
deriving DecidableEq

/-- The settings of a project that says nothing. -/
def Settings.standard : Settings :=
  ⟨none, none, ResolutionLimits.standard, WatchTiming.standard⟩

end LiveShader
