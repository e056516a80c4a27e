import LiveShader.Failure
import LiveShader.FileTree
import LiveShader.Settings.Decoding

/-!
# Settings files

A settings file is looked for in a directory under one name, or named by the user. An
entry that it gives is meant relative to the directory of the file. Settings that could
not work are refused when they are read.
-/

namespace LiveShader.Settings

/-- The name of a settings file. -/
def fileName : Path := ⟨"gshader.yaml"⟩

/-- The code of errors in a settings file. -/
def invalidCode : String := "INVALID_CONFIG"

/-- A settings file that is refused. -/
def refuse {α : Type} (message : String) : Except Failure α :=
  .error (.ofError (.usage invalidCode message))

/-- The entry that a settings file at `path` gives, seen from where the path is seen. -/
def entryFrom (path entry : Path) : Path :=
  if entry.isAbsolute then entry else (path.parent?.getD ⟨"."⟩).join entry

/-- Refuse settings that could not work, and find the entry of the others. What is not
there yet may still come. -/
def check (workspace : Workspace) (path : Path) (settings : Settings) :
    Except Failure Settings :=
  if settings.limits.maxDepth = 0 then refuse "limits.max_depth must be at least 1"
  else if settings.limits.maxFiles = 0 then refuse "limits.max_files must be at least 1"
  else if settings.watch.pollInterval = 0 then refuse "watch.poll_interval_ms must be positive"
  else
    match settings.entry with
    | none => .ok settings
    | some entry =>
      let place := entryFrom path entry
      if workspace.exists? place ∧ !workspace.isFile place then
        refuse ("entry is not a file: " ++ place.text)
      else .ok { settings with entry := some place }

/-- Read the settings file at a path. -/
def load (workspace : Workspace) (path : Path) : Except Failure Settings :=
  match workspace.readText path with
  | .error fault =>
    .error ((Failure.ofText fault.message).within ("failed to read config " ++ path.text))
  | .ok text =>
    match ofYaml text with
    | .error rejection =>
      refuse ("failed to parse yaml in " ++ path.text ++ " at " ++ rejection.location ++ ": " ++
        rejection.text)
    | .ok settings => check workspace path settings

/-- Read the settings file that is named, or else the one in a directory, if there is
one. -/
def discover (workspace : Workspace) (named : Option Path) (directory : Path) :
    Except Failure (Option Settings) :=
  match named with
  | some path => (load workspace path).map some
  | none =>
    let candidate := directory.join fileName
    if workspace.isFile candidate then (load workspace candidate).map some else .ok none

end LiveShader.Settings
