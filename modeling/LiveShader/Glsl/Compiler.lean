import LiveShader.Glsl.Interface

/-!
# The GLSL compiler

A front end reads GLSL and gives a verdict on each source; it stands outside this
library, which takes it as an argument. The compiler here writes the verdicts down as
diagnostics in the format `0(line) : error: message`, one a line, and links modules by
their interfaces.
-/

namespace LiveShader.Glsl

/-- Bytes of a source, from the first to the one behind the last. -/
structure Span where
  start : Nat
  stop : Nat
deriving DecidableEq

/-- An error of the front end: where it is, unless that is unknown, and what it is. -/
structure SourceError where
  span : Option Span
  text : String

/-- What a front end says about a source: errors in reading it, one error found in
checking it (the places it touches, and its text with the texts of its causes), or the
module that it means. -/
inductive Verdict where
  | rejected (errors : List SourceError)
  | invalid (spans : List (Option Span)) (chain : List String)
  | accepted (module : Module)

/-- A span says where something is, unless it is the empty one at the very start. -/
def Span.isDefined (span : Span) : Bool :=
  span ≠ ⟨0, 0⟩

/-- The line of a byte of a source: one more than the line feeds before it. -/
def lineOfByte (source : String) (offset : Nat) : Nat :=
  (source.toUTF8.toList.take offset).count 10 + 1

/-- One line of diagnostics. -/
def diagnosticLine (source : String) (span : Option Span) (message : String) : String :=
  match span.filter Span.isDefined with
  | some span => "0(" ++ toString (lineOfByte source span.start) ++ ") : error: " ++ message ++ "\n"
  | none => "0 : error: " ++ message ++ "\n"

/-- The diagnostics of a verdict that refuses a source. -/
def Verdict.compile (source : String) : Verdict → Except String Module
  | .accepted module => .ok module
  | .rejected errors =>
    .error (String.join (errors.map fun error => diagnosticLine source error.span error.text))
  | .invalid spans chain =>
    .error (diagnosticLine source (spans.findSome? fun span => span.filter Span.isDefined)
      (": ".intercalate chain))

/-- One stage of a program: the module of a source, and the stage it was compiled as. -/
structure StageModule where
  stage : Stage
  module : Module

/-- The compiler behind a front end, which may have a state. -/
def compiler {State : Type} (analyse : State → String → Stage → Verdict × State) :
    Compiler State StageModule Program where
  name := "naga-glsl"
  format := .paren
  compile state source stage :=
    let (verdict, next) := analyse state source stage
    ((verdict.compile source).map fun module => ⟨stage, module⟩, next)
  link state vertex fragment :=
    ((match varyings vertex.module fragment.module with
      | .ok read => .ok ⟨fragment.module, fragment.stage, read⟩
      | .error error => .error error.message), state)

end LiveShader.Glsl
