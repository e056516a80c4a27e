import LiveShader.Journal
import LiveShader.Resolution.Basic
import LiveShader.Text.Blank
import LiveShader.Text.Lines

/-!
# Expansion of includes

Expansion goes depth first: the lines of an included file come before the remaining
lines of its includer. A file is expanded once; every later include of it, a cycle
back to an unfinished file as well, leaves one blank placeholder, so that the unit has
a line for each line of a source but the includes that were expanded.

`expand` recurses on the nesting that is still allowed, so it ends on every tree. An
include is followed only to a file that does not contribute yet. Files are told apart by
their canonical paths, so a file that has none is not expanded.
-/

namespace LiveShader

/-- A unit while it grows. -/
structure Draft where
  lines : List String
  provenance : Provenance
  journal : List Journal.Entry

/-- An expansion that stopped: why, what had grown so far, and the stamp of the file
that was missing, if one was. -/
structure Abort where
  draft : Draft
  error : ResolutionError
  missing : Option Stamp

namespace Draft

/-- Nothing yet. -/
def empty (root : Path) : Draft :=
  ⟨[], Provenance.empty root, []⟩

/-- Begin with a file. -/
def openFile (draft : Draft) (location : Location) (file : File) : Draft :=
  { draft with provenance := draft.provenance.addContributor location.path (some file.modified) }

/-- A line of code of a contributor. -/
def addCode (draft : Draft) (index localLine : Nat) (text : String) : Draft :=
  { draft with
    lines := draft.lines ++ [text]
    provenance := draft.provenance.addOwned index localLine }

/-- A blank line for an include of a file that contributes already. -/
def addRepeated (draft : Draft) (index localLine : Nat) (includer target : Path) : Draft :=
  { lines := draft.lines ++ [""]
    provenance := draft.provenance.addPlaceholder index localLine
    journal := draft.journal ++
      [⟨.debug, "skipping repeated include",
        [("file", target.text), ("from", includer.text), ("line", toString localLine)]⟩] }

end Draft

namespace Workspace

variable (workspace : Workspace)

/-- Expand one line of a contributor. `descend` expands another file. -/
def expandLine (descend : Location → File → Draft → Except Abort Draft)
    (location : Location) (index : Nat) (draft : Draft) (numbered : String × Nat) :
    Except Abort Draft :=
  let (text, line) := numbered
  match SourceLine.classify text with
  | .code => .ok (draft.addCode index line text)
  | .malformed =>
    .error ⟨draft, .malformedInclude location.path line (Text.trim text), none⟩
  | .inclusion target =>
    let candidate := (Location.path location.dropLast).join ⟨target⟩
    match workspace.regular? candidate with
    | none =>
      .error ⟨draft, .missingFile candidate (some (location.path, line)),
        some (workspace.stamp candidate)⟩
    | some (_, file) =>
      match workspace.canonicalize candidate with
      | .error fault => .error ⟨draft, .unreadable candidate fault.message, none⟩
      | .ok place =>
        if draft.provenance.contains place.path then
          .ok (draft.addRepeated index line location.path place.path)
        else
          descend place file draft

/-- The lines of a text with their numbers. -/
def numberedLines (text : String) : List (String × Nat) :=
  (Text.lines text).zipIdx 1

/-- Expand a file that does not contribute yet. The first argument is the nesting that
is allowed, this file included. -/
def expand (limits : ResolutionLimits) : Nat → Location → File → Draft → Except Abort Draft
  | 0, location, _, draft =>
    .error ⟨draft, .tooManyIncludes location.path limits.maxDepth, none⟩
  | nesting + 1, location, file, draft =>
    if limits.maxFiles ≤ draft.provenance.size then
      .error ⟨draft, .tooManyIncludes location.path limits.maxFiles, none⟩
    else
      let opened := draft.openFile location file
      match file.text? with
      | none =>
        .error ⟨opened, .unreadable location.path Fault.notUtf8.message, none⟩
      | some text =>
        (numberedLines text).foldlM
          (workspace.expandLine (expand limits nesting) location draft.provenance.size) opened

/-- Expand an entry file from nothing. Names are shown relative to its directory. -/
def expandEntry (limits : ResolutionLimits) (location : Location) (file : File) :
    Except Abort Draft :=
  workspace.expand limits (limits.maxDepth + 1) location file
    (Draft.empty (Location.path location.dropLast))

/-- How an attempt to resolve ended, and what was noted on the way. -/
structure Attempt where
  result : Except FailedResolution Resolution
  journal : List Journal.Entry

/-- Resolve an entry file, with the notes of the attempt. -/
def attemptResolve (entry : Path) (limits : ResolutionLimits) : Attempt :=
  match workspace.regular? entry with
  | none => ⟨.error ⟨.missingFile entry none, [workspace.stamp entry]⟩, []⟩
  | some (_, file) =>
    match workspace.canonicalize entry with
    | .error fault => ⟨.error ⟨.unreadable entry fault.message, [workspace.stamp entry]⟩, []⟩
    | .ok location =>
      match workspace.expandEntry limits location file with
      | .error abort =>
        ⟨.error ⟨abort.error, abort.draft.provenance.stamps ++ abort.missing.toList⟩,
          abort.draft.journal⟩
      | .ok draft =>
        ⟨.ok ⟨⟨draft.lines⟩, draft.provenance⟩,
          draft.journal ++
            [⟨.debug, "resolved shader unit",
              [("entry", location.path.text), ("files", toString draft.provenance.size),
                ("lines", toString draft.lines.length)]⟩]⟩

/-- Resolve an entry file to one flattened unit. -/
def resolve (entry : Path) (limits : ResolutionLimits) : Except FailedResolution Resolution :=
  (workspace.attemptResolve entry limits).result

end Workspace

end LiveShader
