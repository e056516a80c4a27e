import LiveShader.FileTree

/-!
# Changes to a file tree

One step of a program that works on the same disk: it writes, touches, removes or
renames. A step that cannot be taken leaves the tree as it is, and none sets the time of a
directory.
-/

namespace LiveShader

namespace FileTree

/-- The tree with this entry at a location. -/
def insert (tree : FileTree) (location : Location) (entry : Entry) : FileTree :=
  if location = [] then tree
  else { tree with entries := tree.entries.filter (·.1 ≠ location) ++ [(location, entry)] }

/-- The tree without a location and all below it. -/
def erase (tree : FileTree) (location : Location) : FileTree :=
  { tree with entries := tree.entries.filter fun (place, _) => !location.isPrefixOf place }

/-- The tree with all that is at or below one location moved to another. Directories take
their times along. -/
def move (tree : FileTree) (source target : Location) : FileTree where
  entries :=
    ((tree.erase target).entries.filter fun (place, _) => !source.isPrefixOf place) ++
      (tree.entries.filter fun (place, _) => source.isPrefixOf place).map fun (place, entry) =>
        (target ++ place.drop source.length, entry)
  times place :=
    if target.isPrefixOf place then tree.times (source ++ place.drop target.length)
    else tree.times place

/-- The directory that pieces of a path lead to. Missing directories on the way are
made. -/
def makeDirectories (tree : FileTree) : Location → List String → Option (FileTree × Location)
  | current, [] => some (tree, current)
  | current, piece :: rest =>
    match tree.walk linkLimit current [piece] with
    | .ok next => makeDirectories tree next rest
    | .error .missing =>
      (Name.ofText? piece).bind fun name =>
        makeDirectories (tree.insert (current ++ [name]) .directory) (current ++ [name]) rest
    | .error _ => none

/-- The place that a path names in its directory, links in the last step not
followed. Missing directories on the way are made. -/
def place? (tree : FileTree) (base : Location) (path : Path) : Option (FileTree × Location) :=
  match (pieces path).reverse.dropWhile (fun piece => piece = "" ∨ piece = ".") with
  | [] => none
  | last :: before => do
    let name ← Name.ofText? last
    let (tree, directory) ← tree.makeDirectories (start base path) before.reverse
    return (tree, directory ++ [name])

/-- Where a write to a place goes: through the links there, if there are any. -/
def throughLinks (tree : FileTree) : Nat → Location → Location
  | 0, place => place
  | links + 1, place =>
    match tree.entryAt? place with
    | some (.link target) =>
      match tree.place? place.dropLast target with
      | some (_, next) => tree.throughLinks links next
      | none => place
    | _ => place

end FileTree

namespace Workspace

/-- Put an entry at a path, with the directories on the way. A file is written through
a link that is there; nothing replaces a directory. -/
def put (workspace : Workspace) (path : Path) (entry : Entry) : Workspace :=
  match workspace.tree.place? workspace.directory path with
  | none => workspace
  | some (tree, place) =>
    match entry, tree.entryAt? place with
    | .file file, some (.link _) =>
      { workspace with
        tree := tree.insert (tree.throughLinks FileTree.linkLimit place) (.file file) }
    | _, some .directory => { workspace with tree := tree }
    | _, _ => { workspace with tree := tree.insert place entry }

/-- Set the time of the file that a path leads to. -/
def touch (workspace : Workspace) (path : Path) (modified : Nat) : Workspace :=
  match workspace.regular? path with
  | none => workspace
  | some (location, file) =>
    { workspace with
      tree := workspace.tree.insert location (.file { file with modified := modified }) }

/-- Remove a file, a link or a whole directory. -/
def remove (workspace : Workspace) (path : Path) : Workspace :=
  match workspace.tree.place? workspace.directory path with
  | none => workspace
  | some (_, place) => { workspace with tree := workspace.tree.erase place }

/-- Move a file, a link or a whole directory to another path. -/
def rename (workspace : Workspace) (path target : Path) : Workspace :=
  match workspace.tree.place? workspace.directory path with
  | none => workspace
  | some (_, source) =>
    match workspace.tree.entryAt? source, workspace.tree.place? workspace.directory target with
    | some _, some (tree, place) => { workspace with tree := tree.move source place }
    | _, _ => workspace

end Workspace

end LiveShader
