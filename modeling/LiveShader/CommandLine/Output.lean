import LiveShader.Failure

/-!
# What a call puts out

A call ends with a status and two texts. Status zero means that it did what was asked,
one that it failed, two that its arguments make no call. A failure goes to the error
text, or as an envelope to the output where a script reads it.
-/

namespace LiveShader.CommandLine

/-- What a call that has ended puts out. -/
structure Output where
  status : Nat
  out : String
  err : String
deriving DecidableEq

namespace Output

/-- A call that did what was asked. -/
def success (out : String) : Output :=
  ⟨0, out, ""⟩

/-- The code of failures that have none of their own. -/
def internalCode : String := "INTERNAL"

/-- The error as which a script receives a failure. -/
def failureError (failure : Failure) : UserError :=
  failure.error?.getD (.usage internalCode failure.text)

/-- A call that failed, after some lines of error text. A script receives the failure
alone. -/
def failed (failure : Failure) (json : Bool) (lines : List String) : Output :=
  if json then ⟨1, (failureError failure).envelope.pretty ++ "\n", ""⟩
  else ⟨1, "", Text.unlines (lines ++ ["error: " ++ failure.text])⟩

/-- A call whose arguments are wrong. -/
def misused (message : String) : Output :=
  ⟨2, "", "error: " ++ message ++ "\n"⟩

end Output

end LiveShader.CommandLine
