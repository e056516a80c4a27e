import LiveShader.UserError

/-!
# Why a call of the tool failed

A failure has one cause, which may have a code, inside what was being done when it
arose. It is shown from the outside in.
-/

namespace LiveShader

/-- Why a call failed: what was being done, the outermost first, and the cause. -/
structure Failure where
  contexts : List String
  cause : String ⊕ UserError

namespace Failure

/-- A cause with a code. -/
def ofError (error : UserError) : Failure :=
  ⟨[], .inr error⟩

/-- A cause without a code. -/
def ofText (text : String) : Failure :=
  ⟨[], .inl text⟩

/-- The failure inside what was being done. -/
def within (failure : Failure) (context : String) : Failure :=
  { failure with contexts := context :: failure.contexts }

/-- The error with a code that is behind a failure, if there is one. -/
def error? (failure : Failure) : Option UserError :=
  failure.cause.getRight?

/-- The texts of a failure, the outermost first. -/
def layers (failure : Failure) : List String :=
  failure.contexts ++ [failure.cause.elim id UserError.text]

/-- The outermost text. -/
def outermost (failure : Failure) : String :=
  failure.contexts.headD (failure.cause.elim id UserError.text)

/-- All texts of a failure in one. -/
def text (failure : Failure) : String :=
  ": ".intercalate failure.layers

end Failure

end LiveShader
