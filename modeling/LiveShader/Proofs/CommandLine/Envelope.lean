import LiveShader.CommandLine
import LiveShader.Proofs.CommandLine.Answer
import LiveShader.Proofs.CommandLine.Check
import LiveShader.Proofs.Diagnostic.Accounting
import LiveShader.Proofs.Shader.Reloading

/-!
# The envelope of a check

What `check --json` puts out is one JSON object. It tells by itself how the call ended, and
if it failed, of which kind the error is, and how much the compiler had to say.
-/

namespace LiveShader

namespace CommandLine

variable {State Compiled Program : Type} {workspace : Workspace}
  {compiler : Compiler State Compiled Program} {state : State} {call : CheckCall}

variable {said : String → Prop}

end CommandLine

end LiveShader
