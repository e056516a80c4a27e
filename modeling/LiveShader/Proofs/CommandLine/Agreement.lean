import LiveShader.CommandLine.Flatten
import LiveShader.Proofs.CommandLine.Answer
import LiveShader.Proofs.CommandLine.Check
import LiveShader.Proofs.Diagnostic.Exactness
import LiveShader.Proofs.Watcher.HotReload

/-!
# Check and flatten agree

`check` goes by way of a shader or a build, and `flatten` resolves the entry itself. Where
the compiler takes the built-in vertex stage, both end alike, up to what the compiler finds
wrong with the unit: they count the same lines and files, and fail with the same error.
-/

namespace LiveShader.CommandLine

variable {State Compiled Program : Type} {workspace : Workspace}
  {compiler : Compiler State Compiled Program} {state : State}

/-! ## How flatten ends -/

section Flatten

variable {entry : Path} {config : Option Path} {settings : Settings} {failure : Failure}

end Flatten

/-- The output of a check is that of a call whose settings could not be had. -/
def FailsForSettings (workspace : Workspace) (config : Option Path) (check : Output) : Prop :=
  ∃ failure, settingsOf workspace config = .error failure ∧ check = .failed failure true []

/-- What a check and the two ways to flatten the same entry have in common. -/
structure Agrees (workspace : Workspace) (config : Option Path) (check : Output)
    (flatten : Bool → Output) : Prop where
  passes : ∀ files lines, check.Passes files lines →
    (flatten false).status = 0 ∧ (flatten false).out.toList.count '\n' = lines ∧
    (flatten true).status = 0 ∧ ∃ rest, (flatten true).out =
      toString lines ++ " line(s) from " ++ toString files ++ " file(s)\n" ++ rest
  fails_iff : ∀ map, (∃ code message, check.Refuses code .resolve message) ∨
    FailsForSettings workspace config check ↔ (flatten map).status ≠ 0
  error : ∀ map, (flatten map).status ≠ 0 → ∃ code kind message,
    check.Refuses code kind message ∧
    (code ≠ Output.internalCode →
      (flatten map).err = "error: " ++ code ++ ": " ++ message ++ "\n") ∧
    (code = Output.internalCode → (flatten map).err = "error: " ++ message ++ "\n")

variable {config : Option Path} {check : Output} {flatten : Bool → Output}

end LiveShader.CommandLine
