import LiveShader.FileTree

/-!
# Stamps

A stamp remembers when a file was changed last, or that there was nothing. It is stale
once that differs from what the workspace holds now, so that a file that changes,
vanishes or appears is noticed.
-/

namespace LiveShader

/-- A path, and when what it led to was changed last. -/
structure Stamp where
  path : Path
  modified : Option Nat
deriving DecidableEq

/-- The stamp of a path as things are. -/
def Workspace.stamp (workspace : Workspace) (path : Path) : Stamp :=
  ⟨path, workspace.modified? path⟩

/-- What the path leads to has another time now. -/
def Stamp.isStale (workspace : Workspace) (stamp : Stamp) : Bool :=
  workspace.modified? stamp.path != stamp.modified

end LiveShader
