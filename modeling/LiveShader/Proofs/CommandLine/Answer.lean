import LiveShader.CommandLine.Check
import LiveShader.Proofs.Json.Reading

/-!
# What a script reads

A script has the output text of a call and its status. It reads the text as JSON and looks
members up, and finds what the call had put in: a summary, or an error with its code.
-/

namespace LiveShader

namespace Json

/-- What keys lead to, each in the object that the keys before it lead to. -/
def at? : List String → Json → Option Json
  | [], value => some value
  | key :: keys, value => (value.get? key).bind (at? keys)

end Json

namespace CommandLine

namespace Output

/-- The value that a script reads out of the output. -/
def answer? (output : Output) : Option Json :=
  Json.ofText? output.out

/-- What keys lead to in the value that a script reads. -/
def at? (output : Output) (keys : List String) : Option Json :=
  output.answer?.bind (Json.at? keys)

/-- The output of a check of so many files with so many lines that found nothing wrong. -/
structure Passes (output : Output) (files lines : Nat) : Prop where
  status : output.status = 0
  ok : output.at? ["ok"] = some (.bool true)
  files : output.at? ["files"] = some (.ofNat files)
  lines : output.at? ["lines"] = some (.ofNat lines)

/-- The output of a call that failed, with its error. -/
structure Refuses (output : Output) (code : String) (kind : ErrorKind) (message : String) :
    Prop where
  status : output.status = 1
  ok : output.at? ["ok"] = some (.bool false)
  code : output.at? ["error", "code"] = some (.string code)
  kind : output.at? ["error", "kind"] = some (.string kind.name)
  message : output.at? ["error", "message"] = some (.string message)

variable {output : Output} {files lines : Nat} {code message : String} {kind other : ErrorKind}

/-- There is one pair of counts to be read. -/
theorem Passes.eq {otherFiles otherLines : Nat} (passes : output.Passes files lines)
    (passesToo : output.Passes otherFiles otherLines) :
    otherFiles = files ∧ otherLines = lines := by
  have filesEq := Option.some.inj (passesToo.files.symm.trans passes.files)
  have linesEq := Option.some.inj (passesToo.lines.symm.trans passes.lines)
  exact ⟨Int.ofNat.inj (Json.number.inj filesEq), Int.ofNat.inj (Json.number.inj linesEq)⟩

end Output

end CommandLine

end LiveShader
