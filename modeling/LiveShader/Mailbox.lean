import LiveShader.Journal

/-!
# Notices and where they go

A notice is text for the user. A sink receives notices and never answers: a mailbox
keeps them until its host reads or clears them, the journal sink notes them and keeps
none.
-/

namespace LiveShader

/-- How bad a notice is. -/
inductive Severity where
  | error
  | warning
deriving DecidableEq

/-- The word for a severity. -/
def Severity.name : Severity → String
  | .error => "error"
  | .warning => "warning"

/-- Text for the user. -/
structure Notice where
  severity : Severity
  message : String
deriving DecidableEq

/-- A notice as an entry of the journal. -/
def Notice.journalEntry (notice : Notice) : Journal.Entry :=
  match notice.severity with
  | .error => ⟨.error, notice.message, []⟩
  | .warning => ⟨.warn, notice.message, []⟩

/-- Notices that wait to be read, oldest first. -/
structure Mailbox where
  messages : List Notice
deriving DecidableEq

namespace Mailbox

/-- No notice. -/
def empty : Mailbox := ⟨[]⟩

/-- Receive a notice. -/
def report (mailbox : Mailbox) (notice : Notice) : Mailbox :=
  ⟨mailbox.messages ++ [notice]⟩

/-- The texts of all errors. -/
def errors (mailbox : Mailbox) : List String :=
  (mailbox.messages.filter (·.severity = .error)).map Notice.message

/-- No notice waits. -/
def isEmpty (mailbox : Mailbox) : Bool :=
  mailbox.messages.isEmpty

/-- Forget all notices. -/
def clear (_ : Mailbox) : Mailbox := empty

end Mailbox

end LiveShader
