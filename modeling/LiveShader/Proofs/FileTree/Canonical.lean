import LiveShader.FileTree
import LiveShader.Proofs.Numbering
import LiveShader.Proofs.Text.Lines

/-!
# Canonical paths

The path of a location spells its names, so the location can be read back from it:
`Path.location` is a left inverse of `Location.path`. Hence canonical paths are equal
exactly if their locations are, and comparing them step by step decides the same.
-/

namespace LiveShader

/-! ## Names -/

/-- What makes a text a name. -/
theorem isName_iff {text : String} :
    isName text = true ↔ (text ≠ "" ∧ text ≠ "." ∧ text ≠ "..") ∧ '/' ∉ text.toList ∧
      '\x00' ∉ text.toList ∧ text.utf8ByteSize ≤ nameLimit := by
  simp [isName, and_assoc]

/-- A name is none of the pieces that have a meaning of their own. -/
theorem Name.text_ne (name : Name) : name.text ≠ "" ∧ name.text ≠ "." ∧ name.text ≠ ".." :=
  (isName_iff.1 name.valid).1

/-- A name holds no slash. -/
theorem Name.slash_not_mem (name : Name) : '/' ∉ name.text.toList :=
  (isName_iff.1 name.valid).2.1

/-- A name holds no zero character. -/
theorem Name.nul_not_mem (name : Name) : '\x00' ∉ name.text.toList :=
  (isName_iff.1 name.valid).2.2.1

/-- A name is not too long. -/
theorem Name.short (name : Name) : name.text.utf8ByteSize ≤ nameLimit :=
  (isName_iff.1 name.valid).2.2.2

/-- A name can be made from its own text. -/
@[simp] theorem Name.ofText?_text (name : Name) : Name.ofText? name.text = some name := by
  unfold Name.ofText?
  rw [dif_pos name.valid]

/-- A name is a step, not a filler. -/
theorem Path.isFiller_name (name : Name) : Path.isFiller name.text.toList = false := by
  obtain ⟨nonempty, notHere, -⟩ := name.text_ne
  simp only [Path.isFiller, Bool.or_eq_false_iff, decide_eq_false_iff_not]
  exact ⟨fun empty => nonempty (String.toList_injective empty),
    fun here => notHere (String.toList_injective here)⟩

/-- The step that a name takes. -/
theorem Path.component?_name (name : Name) :
    Path.component? name.text.toList = some (.name name.text) := by
  have notFiller := Path.isFiller_name name
  obtain ⟨-, -, notUp⟩ := name.text_ne
  have notParent : name.text.toList ≠ ['.', '.'] := fun up => notUp (String.toList_injective up)
  simp [Path.component?, notFiller, notParent]

/-! ## From locations to paths and back -/

/-- The location that a canonical path spells. -/
def Path.location (path : Path) : Location :=
  path.components.filterMap fun component =>
    match component with
    | .name text => Name.ofText? text
    | _ => none

namespace Location

/-- A canonical path is absolute. -/
@[simp] theorem isAbsolute_path (location : Location) : location.path.isAbsolute = true := by
  simp [path, Path.isAbsolute]

/-- A canonical path is not empty. -/
theorem text_path_ne (location : Location) : location.path.text ≠ "" := by
  intro isEmpty
  simpa [path] using congrArg String.toList isEmpty

/-- The pieces of a canonical path behind its first slash: one empty piece for the root,
otherwise the names. -/
theorem split_names (location : Location) :
    Text.split '/' (Text.join '/' (location.map fun name => name.text.toList)) =
      if location = [] then [[]] else location.map fun name => name.text.toList := by
  by_cases isRoot : location = []
  · subst isRoot
    rfl
  · rw [if_neg isRoot]
    apply Text.split_join
    · simpa using isRoot
    · intro piece member
      obtain ⟨name, -, rfl⟩ := List.mem_map.1 member
      exact name.slash_not_mem

/-- A canonical path is laid out from the root over its names. -/
theorem layout_path (location : Location) :
    location.path.layout =
      ⟨.root, if location = [] then [[]] else location.map fun name => name.text.toList⟩ := by
  simp only [Path.layout, path, String.toList_ofList, split_names]

/-- A canonical path takes the step to the root and then one step for each name. -/
theorem components_path (location : Location) :
    location.path.components = .root :: location.map fun name => .name name.text := by
  rw [Path.components, layout_path]
  have steps : (location.map fun name => name.text.toList).filterMap Path.component? =
      location.map fun name => .name name.text := by
    induction location with
    | nil => rfl
    | cons name rest inductionHypothesis =>
      rw [List.map_cons, List.filterMap_cons, Path.component?_name, inductionHypothesis,
        List.map_cons]
  by_cases isRoot : location = []
  · subst isRoot
    rfl
  · rw [if_neg isRoot, steps]
    rfl

/-- A canonical path spells its location. -/
@[simp] theorem location_path (location : Location) : location.path.location = location := by
  rw [Path.location, components_path, List.filterMap_cons]
  induction location with
  | nil => rfl
  | cons name rest inductionHypothesis =>
    rw [List.map_cons, List.filterMap_cons]
    simp only [Name.ofText?_text, inductionHypothesis]

/-- Different locations have different canonical paths. -/
theorem path_injective : Function.Injective Location.path :=
  Function.LeftInverse.injective location_path

/-- Canonical paths are the same exactly if their locations are. -/
@[simp] theorem path_inj {left right : Location} : left.path = right.path ↔ left = right :=
  path_injective.eq_iff

/-- Comparing canonical paths step by step compares their locations. -/
@[simp] theorem same_path_iff {left right : Location} :
    left.path.Same right.path ↔ left = right := by
  constructor
  · intro same
    have locations := congrArg (List.filterMap fun component =>
      match component with
      | .name text => Name.ofText? text
      | _ => none) same
    exact (location_path left).symm.trans (locations.trans (location_path right))
  · rintro rfl
    rfl

end Location

/-! ## What a canonical path holds -/

namespace Workspace

/-- A path to a regular file leads to where the file is. -/
theorem file?_of_regular? {workspace : Workspace} {path : Path} {location : Location}
    {file : File} (leads : workspace.regular? path = some (location, file)) :
    workspace.tree.file? location = some file := by
  unfold regular? at leads
  split at leads
  · obtain ⟨found, present, same⟩ := Option.map_eq_some_iff.1 leads
    obtain ⟨rfl, rfl⟩ := Prod.mk.inj same
    exact present
  · simp at leads

/-- The lines of the regular file that a canonical path names; no line if there is no
such file or it is no text. -/
def sourceLines (workspace : Workspace) (path : Path) : List String :=
  match (workspace.tree.file? path.location).bind File.text? with
  | some text => Text.lines text
  | none => []

/-- A line of a source file by its number. Lines count from one. -/
def sourceLine? (workspace : Workspace) (path : Path) (line : Nat) : Option String :=
  atLine? (workspace.sourceLines path) line

/-- The source lines of a canonical path are those of the text of the file there. -/
theorem sourceLines_path {workspace : Workspace} {location : Location} {file : File}
    {text : String} (present : workspace.tree.file? location = some file)
    (isText : file.text? = some text) :
    workspace.sourceLines location.path = Text.lines text := by
  simp [sourceLines, present, isText]

end Workspace

end LiveShader
