import LiveShader.CommandLine
import LiveShader.FileTree.Edit
import LiveShader.Glsl.Compiler

/-!
# The program

Reads the disk, carries out a call, and prints what it puts out. All decisions are those
of `CommandLine.conduct`; what is here only moves bytes. No front end for GLSL belongs to
this library, so the program says of every source that it cannot be read, and is of use
for flattening; a host with a front end calls the library with it.
-/

namespace LiveShader.Program

/-- The front end where there is none. -/
def noFrontEnd (_ : PUnit) (_ : String) (_ : Stage) : Glsl.Verdict × PUnit :=
  (.rejected [⟨none, "no GLSL front end is available"⟩], ⟨⟩)

/-- The compiler of the program. -/
def compiler : Compiler PUnit Glsl.StageModule Glsl.Program :=
  Glsl.compiler noFrontEnd

/-- The location of a canonical path. -/
def locationOf (canonical : String) : Location :=
  (FileTree.pieces ⟨canonical⟩).filterMap Name.ofText?

/-- What the disk holds at a canonical path. -/
def readEntry (canonical : String) : IO (Option Entry) := do
  let place ← IO.FS.realPath canonical
  if ← place.isDir then return some .directory
  try
    let bytes ← IO.FS.readBinFile canonical
    let modified := (← place.metadata).modified
    return some (.file ⟨bytes, modified.sec.toNat * 1000000000 + modified.nsec.toNat⟩)
  catch _ => return none

/-- Add what is at a canonical path, with the directories above it. -/
def addPlace (tree : FileTree) (canonical : String) : IO FileTree := do
  let location := locationOf canonical
  let above := (List.range location.length).map fun length => location.take length
  let tree := above.foldl (fun tree place => tree.insert place .directory) tree
  match ← readEntry canonical with
  | some entry => return tree.insert location entry
  | none => return tree

/-- Add what one step of a path leads to, from the canonical path reached so far. A step
that leads elsewhere than into its directory is a link. -/
def addStep (tree : FileTree) (reached piece : String) : IO (FileTree × String) := do
  let next := (← IO.FS.realPath (reached ++ "/" ++ piece)).toString
  let tree ← addPlace tree next
  let expected := (Name.ofText? piece).map fun name => locationOf reached ++ [name]
  match expected with
  | some place =>
    if place = locationOf next then return (tree, next)
    else return (tree.insert place (.link ⟨next⟩), next)
  | none => return (tree, next)

/-- Add all that a path leads over. What is not there is left out. -/
def addPath (workspace : Workspace) (path : Path) : IO Workspace := do
  let base := if path.isAbsolute then "/" else (Location.path workspace.directory).text
  let mut tree := workspace.tree
  let mut reached := base
  try
    for piece in FileTree.pieces path do
      if piece ≠ "" then
        (tree, reached) ← addStep tree reached piece
  catch _ => pure ()
  return { workspace with tree := tree }

/-- Read what is looked at. Each round may show an include that was not known, and a
round that shows nothing new is the last one. -/
partial def survey (paths : Workspace → List Path) (workspace : Workspace) : IO Workspace := do
  let mut next := workspace
  for path in paths workspace do
    next ← addPath next path
  if next.tree.entries.length = workspace.tree.entries.length then return next
  else survey paths next

/-- The working directory as the disk has it now, as far as it is looked at. -/
def look (paths : Workspace → List Path) : IO Workspace := do
  let here := (← IO.FS.realPath ".").toString
  let tree ← addPlace FileTree.empty here
  survey paths ⟨tree, locationOf here⟩

/-- Show a signal. Debug notes are for nobody. -/
def show? (signal : Signal) : Option String :=
  let entry := match signal with
    | .note entry => entry
    | .notice notice => notice.journalEntry
  if entry.level = .debug then none
  else
    let fields := entry.fields.map fun (key, value) => key ++ "=" ++ value
    some (" ".intercalate (entry.level.name :: entry.message :: fields))

/-- Print signals. -/
def print (signals : List Signal) : IO Unit :=
  (signals.filterMap show?).forM (IO.eprintln ·)

/-- Watch a shader for good. -/
partial def watch (pause : Nat) (watcher : Watcher PUnit Glsl.StageModule Glsl.Program) :
    IO Unit := do
  IO.sleep (UInt32.ofNat (min pause 4294967295))
  let outcome := watcher.tick compiler (← look (CommandLine.shaderPaths watcher.shader))
  print outcome.signals
  watch pause outcome.watcher

/-- Carry out what a call does. -/
def perform (conduct : CommandLine.Conduct PUnit Glsl.StageModule Glsl.Program) : IO UInt32 := do
  match conduct with
  | .ends output =>
    IO.print output.out
    IO.eprint output.err
    return UInt32.ofNat output.status
  | .watches begun =>
    print begun.signals
    watch begun.timing.pollInterval begun.watcher
    return 0

end LiveShader.Program

/-- Carry out the call with these arguments. -/
def main (arguments : List String) : IO UInt32 := do
  let workspace ← match LiveShader.CommandLine.Command.ofArguments arguments with
    | .ok command => LiveShader.Program.look command.paths
    | .error _ => pure ⟨LiveShader.FileTree.empty, []⟩
  LiveShader.Program.perform
    (LiveShader.CommandLine.conduct workspace LiveShader.Program.compiler ⟨⟩ arguments)
