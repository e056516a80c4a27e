import LiveShader.Diagnostic.Format

/-!
# Compilers

What a shader needs of a compiler: a name, the format of its diagnostics, and two
operations that may change a state of its own. A unit is what one stage compiles to, a
program what two units link to. `Compiler.IsPure` singles out the compilers whose
answers depend on their arguments alone.
-/

namespace LiveShader

/-- The stages that a source can be compiled as. -/
inductive Stage where
  | vertex
  | fragment
deriving DecidableEq

namespace Stage

/-- The word for a stage. -/
def name : Stage → String
  | .vertex => "vertex"
  | .fragment => "fragment"

/-- The stage with a name. -/
def ofName? : String → Option Stage
  | "vertex" => some .vertex
  | "fragment" => some .fragment
  | _ => none

end Stage

/-- A compiler. A failed compilation answers with diagnostics, one a line; a failed
link with one message. -/
structure Compiler (State Compiled Program : Type) where
  name : String
  format : DiagnosticFormat
  compile : State → String → Stage → Except String Compiled × State
  link : State → Compiled → Compiled → Except String Program × State

namespace Compiler

variable {State Compiled Program : Type}

/-- The answers depend on the arguments alone, not on the state. -/
def IsPure (compiler : Compiler State Compiled Program) : Prop :=
  (∀ first second source stage,
    (compiler.compile first source stage).1 = (compiler.compile second source stage).1) ∧
  (∀ first second vertex fragment,
    (compiler.link first vertex fragment).1 = (compiler.link second vertex fragment).1)

end Compiler

end LiveShader
