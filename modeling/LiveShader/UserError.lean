import LiveShader.Diagnostic.Report
import LiveShader.Json
import LiveShader.Shader.LoadFailure

/-!
# Errors with a code

An error that a user or a script can act on has a stable code, a kind that says which
part of the work went wrong, and a message. Its envelope is the JSON object in which a
script receives it.
-/

namespace LiveShader

/-- Which part of the work went wrong: the call, the resolution of includes, or the
build. -/
inductive ErrorKind where
  | usage
  | resolve
  | build
deriving DecidableEq

/-- The word for a kind. -/
def ErrorKind.name : ErrorKind → String
  | .usage => "usage"
  | .resolve => "resolve"
  | .build => "build"

/-- The kind of error that a failed load is. -/
def LoadFailure.kind : LoadFailure → ErrorKind
  | .resolve _ => .resolve
  | .notInitialized | .vertex _ | .compile _ | .link _ => .build

/-- A diagnostic as a script receives it. -/
def Diagnostic.toJson (diagnostic : Diagnostic) : Json :=
  .object
    [("display", .string diagnostic.display),
     ("local_line", .ofNat diagnostic.localLine),
     ("message", .string diagnostic.message),
     ("source_file", .string diagnostic.sourceFile.text)]

/-- What a script receives of a report: its diagnostics, and the lines that no source
file could be blamed for. -/
def Report.details (report : Report) : Json :=
  .object
    [("diagnostics", .array (report.diagnostics.map Diagnostic.toJson)),
     ("unresolved", .array (report.unresolved.map .string))]

/-- An error with a stable code. -/
structure UserError where
  code : String
  kind : ErrorKind
  message : String
  details : Option Json

namespace UserError

/-- An error of the call. -/
def usage (code message : String) : UserError :=
  ⟨code, .usage, message, none⟩

/-- The error that a failed load is, with the report of the failed compilation if there
is one. -/
def ofLoad (error : LoadFailure) (report : Option Report) : UserError :=
  ⟨error.code, error.kind, error.message, report.map Report.details⟩

/-- The error with other details. -/
def detailed (error : UserError) (details : Json) : UserError :=
  { error with details := some details }

/-- The error in one line, its code first. -/
def text (error : UserError) : String :=
  error.code ++ ": " ++ error.message

/-- The object in which a script receives the error. The members of the details are in
the order of their keys. -/
def envelope (error : UserError) : Json :=
  .object
    [("ok", .bool false),
     ("error", .object
        ([("code", .string error.code),
          ("kind", .string error.kind.name),
          ("message", .string error.message)] ++
         error.details.toList.map fun details => ("details", details.sorted)))]

end UserError

end LiveShader
