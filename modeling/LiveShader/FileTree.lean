import LiveShader.Path

/-!
# File trees

A file tree is a finite map from locations to entries, a value like any other: what
a program sees of the disk at one moment. `FileTree.walk` is authoritative for what a
path leads to. It crosses symbolic links, takes `..` from the directory it has
reached, and follows at most `linkLimit` links, so that it always ends.

A location is the list of names on the way down from the root, without links. Two
spellings of a path lead to one file exactly if they lead to one location. A program that
asks for the canonical path of a file takes the same walk, but it names each place on the
way from the root, and may find its path too long to be asked for.
-/

namespace LiveShader

/-- The most bytes in one name. -/
def nameLimit : Nat := 255

/-- What a name in a directory may not be: empty, one of the two steps `.` and `..`, a
text with a slash or a zero character, or one that is too long. -/
def isName (text : String) : Bool :=
  text != "" && text != "." && text != ".." && !text.toList.contains '/' &&
    !text.toList.contains '\x00' && text.utf8ByteSize ≤ nameLimit

/-- The name of an entry in its directory. -/
structure Name where
  text : String
  valid : isName text = true
deriving DecidableEq

/-- The name with this text, if it can be one. -/
def Name.ofText? (text : String) : Option Name :=
  if valid : isName text = true then some ⟨text, valid⟩ else none

/-- A place in a file tree: the names on the way down from the root. -/
abbrev Location := List Name

/-- The path that leads to a location without crossing a link. -/
def Location.path (location : Location) : Path :=
  ⟨String.ofList ('/' :: Text.join '/' (location.map fun name => name.text.toList))⟩

/-- A regular file: its bytes and the time of its last change. -/
structure File where
  bytes : ByteArray
  modified : Nat

/-- The text of a file, if its bytes are UTF-8. -/
def File.text? (file : File) : Option String :=
  String.fromUTF8? file.bytes

/-- What a directory holds under a name. -/
inductive Entry where
  | file (file : File)
  | directory
  | link (target : Path)

/-- A finite tree of entries, and the times at which its directories were changed last. The
root is always a directory. -/
structure FileTree where
  entries : List (Location × Entry)
  times : Location → Nat

/-- Why a path leads nowhere, or why what it leads to cannot be read. -/
inductive Fault where
  | missing
  | notDirectory
  | isDirectory
  | nameTooLong
  | tooManyLinks
  | nulInPath
  | notUtf8
deriving DecidableEq

/-- The wording of a fault. -/
def Fault.message : Fault → String
  | .missing => "No such file or directory (os error 2)"
  | .notDirectory => "Not a directory (os error 20)"
  | .isDirectory => "Is a directory (os error 21)"
  | .nameTooLong => "File name too long (os error 36)"
  | .tooManyLinks => "Too many levels of symbolic links (os error 40)"
  | .nulInPath => "file name contained an unexpected NUL byte"
  | .notUtf8 => "stream did not contain valid UTF-8"

namespace FileTree

/-- The most links that one walk follows. -/
def linkLimit : Nat := 40

/-- The most bytes in one path. -/
def pathLimit : Nat := 4095

/-- The tree that holds its root alone. -/
def empty : FileTree := ⟨[], fun _ => 0⟩

/-- What is at a location, links not followed. -/
def entryAt? (tree : FileTree) (location : Location) : Option Entry :=
  if location = [] then some .directory else tree.entries.lookup location

/-- A directory is at the location. -/
def isDirectoryAt (tree : FileTree) (location : Location) : Bool :=
  match tree.entryAt? location with
  | some .directory => true
  | _ => false

/-- Directories lead from the root to the location. -/
def isReached (tree : FileTree) (location : Location) : Bool :=
  (List.range location.length).all fun depth => tree.isDirectoryAt (location.take depth)

/-- The pieces of a path between its slashes, and whether they start at the root. -/
def pieces (path : Path) : List String :=
  (Text.split '/' path.text.toList).map String.ofList

/-- Where a path starts: at the root if it is absolute, otherwise at `base`. -/
def start (base : Location) (path : Path) : Location :=
  if path.isAbsolute then [] else base

/-- Go on from a location along pieces of a path. `admits` tells if a place may be asked
for when these pieces are still ahead, and `follow` goes on where a link was crossed. -/
def walkWith (tree : FileTree) (admits : Location → List String → Bool)
    (follow : Location → List String → Except Fault Location) :
    Location → List String → Except Fault Location
  | current, [] => .ok current
  | current, piece :: rest =>
    match tree.entryAt? current with
    | none => .error .missing
    | some .directory =>
      if piece = "" ∨ piece = "." then
        walkWith tree admits follow current rest
      else if piece = ".." then
        walkWith tree admits follow current.dropLast rest
      else if nameLimit < piece.utf8ByteSize then
        .error .nameTooLong
      else
        match Name.ofText? piece with
        | none => .error .missing
        | some name =>
          if admits (current ++ [name]) [] then
            match tree.entryAt? (current ++ [name]) with
            | none => .error .missing
            | some (.link target) => follow (start current target) (pieces target ++ rest)
            | some _ =>
              if admits (current ++ [name]) rest then
                walkWith tree admits follow (current ++ [name]) rest
              else
                .error .nameTooLong
          else
            .error .nameTooLong
    | some _ => .error .notDirectory

/-- The location that pieces of a path lead to, over at most so many links, if each place
on the way is admitted. -/
def walkBy (tree : FileTree) (admits : Location → List String → Bool) :
    Nat → Location → List String → Except Fault Location
  | 0 => tree.walkWith admits fun _ _ => .error .tooManyLinks
  | links + 1 => tree.walkWith admits (tree.walkBy admits links)

/-- The system walks from directory to directory, and no place is too deep for it. -/
def anywhere (_place : Location) (_ahead : List String) : Bool :=
  true

/-- The location that pieces of a path lead to, over at most so many links. -/
def walk (tree : FileTree) : Nat → Location → List String → Except Fault Location :=
  tree.walkBy anywhere

/-- These pieces must be ahead of a directory, and no name among them comes first that
would show it. -/
def needDirectory (ahead : List String) : Bool :=
  match ahead.dropWhile fun piece => piece = "" ∨ piece = "." with
  | [] => !ahead.isEmpty
  | piece :: _ => piece = ".."

/-- The path of a place is short enough to ask for it, with a slash behind it if it has to
be a directory. -/
def isNameable (place : Location) (ahead : List String) : Bool :=
  place.path.text.utf8ByteSize + (if needDirectory ahead then 1 else 0) ≤ pathLimit

/-- Where a walk along a path leads. A relative path leads nowhere from a working directory
that cannot be reached, and the empty path leads nowhere at all. -/
def lead (tree : FileTree) (walk : Location → List String → Except Fault Location)
    (base : Location) (path : Path) : Except Fault Location :=
  if path.text = "" then .error .missing
  else if path.isAbsolute || tree.isReached base then walk (start base path) (pieces path)
  else .error .missing

/-- The location that a path leads to from `base`. -/
def locate (tree : FileTree) (base : Location) (path : Path) : Except Fault Location :=
  if path.text.toList.contains '\x00' then .error .nulInPath
  else if pathLimit < path.text.utf8ByteSize then .error .nameTooLong
  else tree.lead (tree.walk linkLimit) base path

/-- The location whose path is the canonical one of a path. Each place on the way is asked
for by its own path from the root. -/
def canonicalize (tree : FileTree) (base : Location) (path : Path) : Except Fault Location :=
  if path.text.toList.contains '\x00' then .error .nulInPath
  else tree.lead (tree.walkBy isNameable linkLimit) base path

/-- The regular file at a location. -/
def file? (tree : FileTree) (location : Location) : Option File :=
  match tree.entryAt? location with
  | some (.file file) => some file
  | _ => none

/-- When what is at a location was changed last. -/
def modified? (tree : FileTree) (location : Location) : Option Nat :=
  match tree.entryAt? location with
  | some (.file file) => some file.modified
  | some .directory => some (tree.times location)
  | _ => none

/-- The locations of all regular files. -/
def files (tree : FileTree) : List Location :=
  (tree.entries.map Prod.fst).filter fun location => (tree.file? location).isSome

end FileTree

/-- A file tree, seen from a working directory. -/
structure Workspace where
  tree : FileTree
  directory : Location

namespace Workspace

/-- The location that a path leads to from the working directory. -/
def locate (workspace : Workspace) (path : Path) : Except Fault Location :=
  workspace.tree.locate workspace.directory path

/-- The location whose path is the canonical one of a path. -/
def canonicalize (workspace : Workspace) (path : Path) : Except Fault Location :=
  workspace.tree.canonicalize workspace.directory path

/-- What a path leads to. -/
def entryAt? (workspace : Workspace) (path : Path) : Option Entry :=
  match workspace.locate path with
  | .ok location => workspace.tree.entryAt? location
  | .error _ => none

/-- The regular file that a path leads to, and where it is. -/
def regular? (workspace : Workspace) (path : Path) : Option (Location × File) :=
  match workspace.locate path with
  | .ok location => (workspace.tree.file? location).map (location, ·)
  | .error _ => none

/-- The path leads to something. -/
def exists? (workspace : Workspace) (path : Path) : Bool :=
  (workspace.entryAt? path).isSome

/-- The path leads to a regular file. -/
def isFile (workspace : Workspace) (path : Path) : Bool :=
  (workspace.regular? path).isSome

/-- The path leads to a directory. -/
def isDirectory (workspace : Workspace) (path : Path) : Bool :=
  match workspace.locate path with
  | .ok location => workspace.tree.isDirectoryAt location
  | .error _ => false

/-- When what a path leads to was changed last. -/
def modified? (workspace : Workspace) (path : Path) : Option Nat :=
  match workspace.locate path with
  | .ok location => workspace.tree.modified? location
  | .error _ => none

/-- The text of the file that a path leads to. -/
def readText (workspace : Workspace) (path : Path) : Except Fault String :=
  match workspace.locate path with
  | .error fault => .error fault
  | .ok location =>
    match workspace.tree.entryAt? location with
    | some (.file file) => file.text?.elim (.error .notUtf8) .ok
    | some .directory => .error .isDirectory
    | _ => .error .missing

end Workspace

end LiveShader
