/-!
# Journal

What a program notes for its operator, as data: a level, a message, and named values.
Whether and where entries are shown is decided outside.
-/

namespace LiveShader.Journal

/-- How much an entry matters. -/
inductive Level where
  | debug
  | info
  | warn
  | error
deriving DecidableEq

/-- The word for a level. -/
def Level.name : Level → String
  | .debug => "DEBUG"
  | .info => "INFO"
  | .warn => "WARN"
  | .error => "ERROR"

/-- One note. -/
structure Entry where
  level : Level
  message : String
  fields : List (String × String)
deriving DecidableEq

end LiveShader.Journal
