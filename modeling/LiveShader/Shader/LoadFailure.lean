import LiveShader.Resolution.Basic

/-!
# Why a load gave no program
-/

namespace LiveShader

/-- Why a load gave no program. -/
inductive LoadFailure where
  | notInitialized
  | vertex (diagnostics : String)
  | resolve (error : ResolutionError)
  | compile (diagnostics : Nat)
  | link (message : String)
deriving DecidableEq

namespace LoadFailure

/-- The stable name of the kind of failure. -/
def code : LoadFailure → String
  | .notInitialized => "NOT_INITIALIZED"
  | .vertex _ => "VERTEX_FAILED"
  | .resolve error => error.code
  | .compile _ => "COMPILE_FAILED"
  | .link _ => "LINK_FAILED"

/-- The wording of a failure. -/
def message : LoadFailure → String
  | .notInitialized => "shader was not initialized, call initialize() before load()"
  | .vertex diagnostics => "built-in vertex stage failed to compile: " ++ diagnostics
  | .resolve error => error.message
  | .compile diagnostics =>
    "shader compilation failed with " ++ toString diagnostics ++ " diagnostic(s)"
  | .link message => "cannot link shader program => " ++ message

/-- The fault of the file system behind a failure. -/
def cause? : LoadFailure → Option String
  | .resolve error => error.cause?
  | _ => none

end LoadFailure

end LiveShader
