import LiveShader.Mailbox
import LiveShader.Shader.Build
import LiveShader.Shader.LoadFailure
import LiveShader.Text.Blank

/-!
# Live shaders

A live shader holds the last program that linked, and the state of the last load. A
load overwrites all that describes the last load, however it ends, and replaces the
program only when it succeeds: a broken edit never takes a working program away.

An operation returns the shader after it, its result, and the signals it gave on the
way, journal entries and notices in their order.
-/

namespace LiveShader

/-- Where a shader is in its life. A load is `resolving` only while it is under way. -/
inductive ShaderState where
  | empty
  | resolving
  | compiled
  | failed
deriving DecidableEq

/-- The word for a state. -/
def ShaderState.name : ShaderState → String
  | .empty => "empty"
  | .resolving => "resolving"
  | .compiled => "compiled"
  | .failed => "failed"

/-- What an operation makes known: a note for the operator or a notice for the user. -/
inductive Signal where
  | note (entry : Journal.Entry)
  | notice (notice : Notice)
deriving DecidableEq

/-- The notices among signals. -/
def Signal.notices (signals : List Signal) : List Notice :=
  signals.filterMap fun signal =>
    match signal with
    | .note _ => none
    | .notice message => some message

/-- The full-screen vertex stage that every fragment shader is linked against. -/
def fullScreenVertex : String :=
  "#version 450 core\n" ++
  "layout(location = 0) in vec3 vPos;\n" ++
  "layout(location = 2) in vec2 vTexCoord;\n" ++
  "layout(location = 0) out vec2 fragCoord;\n" ++
  "void main() \x7b\n" ++
  "    fragCoord = vTexCoord;\n" ++
  "    gl_Position = vec4(vPos, 1.0);\n" ++
  "\x7d\n"

/-- A shader that follows its sources. `backend` is the state of its compiler. -/
structure Shader (State Compiled Program : Type) where
  backend : State
  limits : ResolutionLimits
  formatOverride : Option DiagnosticFormat
  vertex : Option Compiled
  program : Option Program
  state : ShaderState
  entry : Option Path
  resolution : Option Resolution
  stamps : List Stamp
  lastReport : Option Report

/-- How an operation on a shader ended. -/
structure LoadOutcome (State Compiled Program : Type) where
  shader : Shader State Compiled Program
  result : Except LoadFailure PUnit
  signals : List Signal

namespace Shader

variable {State Compiled Program : Type}

/-- A shader that was never loaded. -/
def new (backend : State) (limits : ResolutionLimits) (formatOverride : Option DiagnosticFormat) :
    Shader State Compiled Program where
  backend := backend
  limits := limits
  formatOverride := formatOverride
  vertex := none
  program := none
  state := .empty
  entry := none
  resolution := none
  stamps := []
  lastReport := none

/-- The format in which compiler output is read. -/
def format (shader : Shader State Compiled Program)
    (compiler : Compiler State Compiled Program) : DiagnosticFormat :=
  shader.formatOverride.getD compiler.format

/-- Compile the built-in vertex stage. A load needs it. -/
def prepare (shader : Shader State Compiled Program)
    (compiler : Compiler State Compiled Program) : LoadOutcome State Compiled Program :=
  match compiler.compile shader.backend fullScreenVertex .vertex with
  | (.ok vertex, next) => ⟨{ shader with backend := next, vertex := some vertex }, .ok ⟨⟩, []⟩
  | (.error raw, next) =>
    ⟨{ shader with backend := next }, .error (.vertex (Text.trimEnd raw)), []⟩

/-- The signals of a load that failed: what was noted, and one notice. -/
def failureSignals (journal : List Journal.Entry) (message : String) : List Signal :=
  journal.map .note ++ [.notice ⟨.error, message⟩]

/-- Load an entry file: resolve, compile and link it. -/
def load (shader : Shader State Compiled Program)
    (compiler : Compiler State Compiled Program) (workspace : Workspace) (entry : Path) :
    LoadOutcome State Compiled Program :=
  match shader.vertex with
  | none =>
    ⟨{ shader with state := .failed }, .error .notInitialized,
      failureSignals [] LoadFailure.notInitialized.message⟩
  | some vertex =>
    let attempt :=
      workspace.build compiler shader.backend entry .fragment shader.limits (shader.format compiler)
    let begun := { shader with entry := some entry, lastReport := none, backend := attempt.state }
    let field := ("entry", entry.text)
    match attempt.result with
    | .error (.resolve failure) =>
      let note : Journal.Entry :=
        ⟨.warn, "shader resolution failed: " ++ failure.error.message, [field]⟩
      ⟨{ begun with state := .failed, resolution := none, stamps := failure.stamps },
        .error (.resolve failure.error),
        failureSignals (attempt.journal ++ [note]) failure.error.message⟩
    | .error (.compile resolution report) =>
      let note : Journal.Entry :=
        ⟨.warn, "shader compilation failed",
          [field, ("diagnostics", toString report.count)]⟩
      ⟨{ begun with
          state := .failed
          resolution := some resolution
          stamps := resolution.provenance.stamps
          lastReport := some report },
        .error (.compile report.count), failureSignals (attempt.journal ++ [note]) report.text⟩
    | .ok build =>
      let kept :=
        { begun with
          resolution := some build.resolution
          stamps := build.resolution.provenance.stamps }
      match compiler.link attempt.state vertex build.compiled with
      | (.ok program, next) =>
        let note : Journal.Entry :=
          ⟨.info, "shader compiled",
            [field, ("files", toString build.resolution.provenance.size),
              ("lines", toString build.resolution.unit.lineCount)]⟩
        ⟨{ kept with state := .compiled, program := some program, backend := next }, .ok ⟨⟩,
          (attempt.journal ++ [note]).map .note⟩
      | (.error message, next) =>
        let note : Journal.Entry := ⟨.warn, "shader link failed: " ++ message, [field]⟩
        ⟨{ kept with state := .failed, backend := next }, .error (.link message),
          failureSignals (attempt.journal ++ [note])
            ("Cannot link shader program => " ++ message)⟩

/-- Load the last entry again. Without one there is nothing to do. -/
def reload (shader : Shader State Compiled Program)
    (compiler : Compiler State Compiled Program) (workspace : Workspace) :
    LoadOutcome State Compiled Program :=
  match shader.entry with
  | some entry => shader.load compiler workspace entry
  | none => ⟨shader, .ok ⟨⟩, []⟩

/-- A file that the last load touched has changed, vanished or appeared. -/
def isOutdated (shader : Shader State Compiled Program) (workspace : Workspace) : Bool :=
  shader.stamps.any (·.isStale workspace)

/-- The last load failed. -/
def lastLoadFailed (shader : Shader State Compiled Program) : Bool :=
  shader.state = .failed

/-- The files that the last load touched. -/
def touchedFiles (shader : Shader State Compiled Program) : List Path :=
  shader.stamps.map Stamp.path

end Shader

end LiveShader
