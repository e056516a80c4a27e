import LiveShader.Shader

/-!
# Watching a shader

A watcher reloads its shader at a tick if a watched file has another time than when it
was loaded. Events of the file system only wake it: the times decide. It keeps the
directories in which something may change, the parents of the watched files. The system
may refuse to watch one of them, and then the directories stay as they were.
-/

namespace LiveShader

/-- The order of paths without repetition: of paths with the same steps the last one
counts. -/
def Path.insertSorted (path : Path) : List Path → List Path
  | [] => [path]
  | head :: tail =>
    match path.compare head with
    | .lt => path :: head :: tail
    | .eq => head :: tail
    | .gt => head :: Path.insertSorted path tail

/-- Paths in order, each once. -/
def Path.sortedSet (paths : List Path) : List Path :=
  paths.foldr Path.insertSorted []

/-- A shader, and the directories that are watched for it. -/
structure Watcher (State Compiled Program : Type) where
  shader : Shader State Compiled Program
  directories : List Path

/-- How the system answers the wish to watch a directory: with a cause if it refuses. -/
abbrev Notifier := Path → Option String

/-- A system that watches every directory. -/
def Notifier.willing : Notifier :=
  fun _ => none

/-- A directory that the system refused to watch, and why. -/
structure WatchFailure where
  directory : Path
  cause : String
deriving DecidableEq

/-- The wording of a failure. -/
def WatchFailure.message (failure : WatchFailure) : String :=
  "failed to watch " ++ failure.directory.text ++ ": " ++ failure.cause

/-- How the directories of a watcher were brought up to date, or why they were not. -/
structure SyncOutcome (State Compiled Program : Type) where
  watcher : Watcher State Compiled Program
  failure : Option WatchFailure
  journal : List Journal.Entry

/-- What a tick did. -/
inductive TickResult where
  | idle
  | reloaded (ok : Bool)
deriving DecidableEq

/-- How a tick ended. One that could not watch a directory fails with that, after the
reload. -/
structure TickOutcome (State Compiled Program : Type) where
  watcher : Watcher State Compiled Program
  result : TickResult
  failure : Option WatchFailure
  signals : List Signal

namespace Watcher

variable {State Compiled Program : Type}

/-- The directories to watch for files: their parents, where those are directories. -/
def wantedDirectories (workspace : Workspace) (files : List Path) : List Path :=
  Path.sortedSet ((files.filterMap Path.parent?).filter workspace.isDirectory)

/-- The paths of which others hold no spelling. -/
def without (paths others : List Path) : List Path :=
  paths.filter fun path => !others.any fun other => other.Same path

/-- Watch directories, one after the other, until one is refused. -/
def watchAll (notifier : Notifier) : List Path → List Journal.Entry × Option WatchFailure
  | [] => ([], none)
  | directory :: rest =>
    match notifier directory with
    | some cause => ([], some ⟨directory, cause⟩)
    | none =>
      let (notes, failure) := watchAll notifier rest
      (⟨.debug, "watching", [("dir", directory.text)]⟩ :: notes, failure)

/-- Watch the directories of the files that the shader's last load touched, and no others.
If one is refused, the watcher keeps those that it had. -/
def syncDirectories (watcher : Watcher State Compiled Program) (workspace : Workspace)
    (notifier : Notifier) : SyncOutcome State Compiled Program :=
  let wanted := wantedDirectories workspace watcher.shader.touchedFiles
  let stopped := (without watcher.directories wanted).map fun directory =>
    (⟨.debug, "stopped watching", [("dir", directory.text)]⟩ : Journal.Entry)
  let (started, failure) := watchAll notifier (without wanted watcher.directories)
  ⟨if failure.isNone then { watcher with directories := wanted } else watcher, failure,
    stopped ++ started⟩

/-- Begin to watch a shader, unless the system refuses one of its directories. -/
def start (shader : Shader State Compiled Program) (workspace : Workspace)
    (notifier : Notifier) :
    Except WatchFailure (Watcher State Compiled Program) × List Journal.Entry :=
  let synced := syncDirectories ⟨shader, []⟩ workspace notifier
  (synced.failure.elim (.ok synced.watcher) .error, synced.journal)

/-- Begin to watch a shader where the system watches every directory. -/
def new (shader : Shader State Compiled Program) (workspace : Workspace) :
    Watcher State Compiled Program × List Journal.Entry :=
  let synced := syncDirectories ⟨shader, []⟩ workspace .willing
  (synced.watcher, synced.journal)

/-- The note on a reload. -/
def reloadNotes (shader : Shader State Compiled Program) (result : Except LoadFailure PUnit) :
    List Journal.Entry :=
  match result, shader.entry with
  | .ok _, some entry => [⟨.info, "reloaded shader", [("entry", entry.text)]⟩]
  | .ok _, none => []
  | .error error, _ => [⟨.warn, "reload failed: " ++ error.message, []⟩]

/-- Reload if a watched file has another time, and watch the directories of what was
loaded then. -/
def tick (watcher : Watcher State Compiled Program) (compiler : Compiler State Compiled Program)
    (workspace : Workspace) (notifier : Notifier := .willing) :
    TickOutcome State Compiled Program :=
  if watcher.shader.isOutdated workspace then
    let outcome := watcher.shader.reload compiler workspace
    let synced := syncDirectories { watcher with shader := outcome.shader } workspace notifier
    let notes := if synced.failure.isNone then reloadNotes outcome.shader outcome.result else []
    ⟨synced.watcher, .reloaded outcome.result.isOk, synced.failure,
      outcome.signals ++ synced.journal.map .note ++ notes.map .note⟩
  else
    ⟨watcher, .idle, none, []⟩

end Watcher

end LiveShader
