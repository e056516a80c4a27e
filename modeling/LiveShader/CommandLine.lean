import LiveShader.CommandLine.Flatten
import LiveShader.Watcher

/-!
# The command line

`conduct` says what a call does in a workspace, with a compiler: it ends and puts
something out, or it goes on to watch a shader.
-/

namespace LiveShader.CommandLine

/-- The name and the version of the tool. -/
def versionText : String := "gshader 0.1.0\n"

/-- How the tool is called. -/
def helpText : String :=
  Text.unlines
    ["Resolve, compile and hot-reload GLSL fragment shaders",
     "",
     "Usage: gshader <COMMAND>",
     "",
     "Commands:",
     "  check [ENTRY] [--config FILE] [--stage vertex|fragment] [--format paren|colon] [--json]",
     "  flatten ENTRY [--config FILE] [--map]",
     "  watch [ENTRY] [--config FILE] [--format paren|colon]",
     "  help",
     "",
     "Options:",
     "  -h, --help",
     "  -V, --version"]

variable {State Compiled Program : Type}

/-- A shader that is watched, how eagerly, and what is to be shown first. -/
structure Watch (State Compiled Program : Type) where
  watcher : Watcher State Compiled Program
  timing : WatchTiming
  signals : List Signal

/-- What a call does. -/
inductive Conduct (State Compiled Program : Type) where
  | ends (output : Output)
  | watches (watch : Watch State Compiled Program)

/-- The note with which watching begins. -/
def watchNote (entry : Path) (watcher : Watcher State Compiled Program) : Journal.Entry :=
  ⟨.info, "watching shader sources",
    [("entry", entry.text), ("dirs", toString watcher.directories.length)]⟩

/-- Carry out a call of `watch`. A first build that fails is no reason not to watch. -/
def WatchCall.result (workspace : Workspace) (compiler : Compiler State Compiled Program)
    (state : State) (call : WatchCall) : Except Failure (Watch State Compiled Program) := do
  let (entry, settings) ← entryOf workspace call.entry call.config
  let shader ← preparedShader compiler state settings (call.format.or settings.format)
  let outcome := shader.load compiler workspace entry
  let (watcher, notes) := Watcher.new outcome.shader workspace
  .ok ⟨watcher, settings.watch,
    outcome.signals ++ notes.map .note ++ [.note (watchNote entry watcher)]⟩

/-- The settings file and the entry file that a command names. -/
def Command.names : Command → Option Path × Option Path
  | .check call => (call.config, call.entry)
  | .flatten call => (call.config, some call.entry)
  | .watch call => (call.config, call.entry)

/-- The paths that the resolution of an entry file looks at. Files that are not there are
among them, so that a reader of a disk can find out step by step which files matter. -/
def pathsOf (workspace : Workspace) (entry : Path) (limits : ResolutionLimits) : List Path :=
  entry ::
    match (workspace.attemptResolve entry limits).result with
    | .ok resolution => resolution.provenance.stamps.map Stamp.path
    | .error failure => failure.stamps.map Stamp.path

/-- The paths that a command looks at. -/
def Command.paths (command : Command) (workspace : Workspace) : List Path :=
  let (config, entry) := command.names
  let here := Location.path workspace.directory
  let settingsFile := config.getD (here.join Settings.fileName)
  match settingsOf workspace config with
  | .error _ => [settingsFile]
  | .ok settings =>
    settingsFile :: settings.entry.toList ++
      (entry.or settings.entry).elim [] fun entry => pathsOf workspace entry settings.limits

/-- The paths that a shader looks at when it is loaded again. -/
def shaderPaths (shader : Shader State Compiled Program) (workspace : Workspace) : List Path :=
  shader.touchedFiles ++
    shader.entry.elim [] fun entry => pathsOf workspace entry shader.limits

/-- What a command does. -/
def Command.conduct (workspace : Workspace) (compiler : Compiler State Compiled Program)
    (state : State) : Command → Conduct State Compiled Program
  | .check call => .ends (call.output workspace compiler state)
  | .flatten call => .ends (call.output workspace)
  | .watch call =>
    match call.result workspace compiler state with
    | .ok begun => .watches begun
    | .error failure => .ends (.failed failure false [])

/-- What a call does. -/
def conduct (workspace : Workspace) (compiler : Compiler State Compiled Program) (state : State)
    (arguments : List String) : Conduct State Compiled Program :=
  match Command.ofArguments arguments with
  | .ok command => command.conduct workspace compiler state
  | .error .help => .ends (.success helpText)
  | .error .version => .ends (.success versionText)
  | .error (.usage error) => .ends (.misused error.message)

end LiveShader.CommandLine
