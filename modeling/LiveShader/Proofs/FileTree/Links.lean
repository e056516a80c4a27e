import LiveShader.Proofs.FileTree.Moments

/-!
# Trees that differ in links alone

Links decide where a path leads, and nothing else: where two trees have the same regular
files and the same directories, a path that leads to one place in both leads to the same
file, and the canonical path of a file, on which there are no links, has the same time.
-/

namespace LiveShader

/-- The entry is not a link. -/
def Entry.isSolid : Entry → Bool
  | .link _ => false
  | .file _ | .directory => true

namespace FileTree

/-- What is at a location, unless it is a link. -/
def solid? (tree : FileTree) (location : Location) : Option Entry :=
  (tree.entryAt? location).filter Entry.isSolid

/-- Two trees have the same regular files and the same directories. -/
def SameSolids (before after : FileTree) : Prop :=
  ∀ location, before.solid? location = after.solid? location

variable {tree before after : FileTree} {location current : Location} {file : File}

/-- Which of the trees is named first does not matter. -/
theorem SameSolids.symm (same : before.SameSolids after) : after.SameSolids before :=
  fun location => (same location).symm

/-- What is no link is in both trees. -/
theorem SameSolids.entryAt?_eq (same : before.SameSolids after) {entry : Entry}
    (here : before.entryAt? location = some entry) (isSolid : entry.isSolid = true) :
    after.entryAt? location = some entry := by
  have there := same location
  simp only [solid?, here, Option.filter_some, isSolid, if_true] at there
  exact (Option.filter_eq_some_iff.1 there.symm).1

/-- Both trees have the same regular files. -/
theorem SameSolids.file?_eq (same : before.SameSolids after) (location : Location) :
    after.file? location = before.file? location := by
  refine Option.ext fun file => ?_
  rw [Workspace.file?_eq_some_iff, Workspace.file?_eq_some_iff]
  exact ⟨fun there => same.symm.entryAt?_eq there rfl, fun here => same.entryAt?_eq here rfl⟩

/-- On the way to a grounded file, the file included, all entries are solid. -/
theorem Grounded.exists_solid (grounded : tree.Grounded location)
    (present : tree.file? location = some file) {above : Location} (isAbove : above <+: location) :
    ∃ entry, tree.entryAt? above = some entry ∧ entry.isSolid = true := by
  by_cases isEnd : above = location
  · exact ⟨.file file, isEnd ▸ Workspace.file?_eq_some_iff.1 present, rfl⟩
  · exact ⟨.directory, grounded above isAbove isEnd, rfl⟩

/-! ## Canonical paths -/

/-- From the root, names on which all entries are solid lead to the same end in both trees,
also if that is a fault. -/
theorem walkWith_names_eq (same : before.SameSolids after)
    {follow follow' : Location → List String → Except Fault Location} {names : List Name}
    (solid : ∀ above, current <+: above → above <+: current ++ names →
      ∃ entry, before.entryAt? above = some entry ∧ entry.isSolid = true) :
    after.walkWith anywhere follow' current (names.map Name.text) =
      before.walkWith anywhere follow current (names.map Name.text) := by
  induction names generalizing current with
  | nil => rfl
  | cons name rest inductionHypothesis =>
    have grouped : current ++ name :: rest = current ++ [name] ++ rest := by simp
    obtain ⟨here, isHere, hereSolid⟩ := solid current (List.prefix_refl _) (List.prefix_append _ _)
    obtain ⟨next, isNext, nextSolid⟩ := solid (current ++ [name]) (List.prefix_append _ _)
      (grouped ▸ List.prefix_append _ _)
    have onward : after.walkWith anywhere follow' (current ++ [name]) (rest.map Name.text) =
        before.walkWith anywhere follow (current ++ [name]) (rest.map Name.text) :=
      inductionHypothesis fun above isAbove isBelow =>
        solid above ((List.prefix_append _ _).trans isAbove) (grouped ▸ isBelow)
    cases here with
    | link => cases hereSolid
    | file => simp [walkWith, isHere, same.entryAt?_eq isHere rfl]
    | directory =>
      have notLink : ∀ target, next ≠ .link target := by
        rintro target rfl
        cases nextSolid
      rw [List.map_cons, walkWith_enter isHere rfl isNext notLink rfl,
        walkWith_enter (same.entryAt?_eq isHere rfl) rfl (same.entryAt?_eq isNext nextSolid) notLink
          rfl, onward]

/-- The canonical path of a grounded file leads to the same end in both trees. -/
theorem locate_path_eq (same : before.SameSolids after) (grounded : before.Grounded location)
    (present : before.file? location = some file) (base other : Location) :
    after.locate other location.path = before.locate base location.path := by
  have isAbsolute : location.path.isAbsolute = true := Location.isAbsolute_path location
  have below : location ≠ [] := by
    rintro rfl
    simp [file?, entryAt?] at present
  have atRoot : ∀ tree : FileTree, tree.entryAt? [] = some .directory := fun _ => rfl
  have walked : after.walk linkLimit [] (FileTree.pieces location.path) =
      before.walk linkLimit [] (FileTree.pieces location.path) := by
    rw [pieces_path, if_neg below, walk, walk, walkBy_eq, walkBy_eq,
      walkWith_stay (atRoot after) (.inl rfl), walkWith_stay (atRoot before) (.inl rfl)]
    exact walkWith_names_eq same fun above _ isBelow => grounded.exists_solid present isBelow
  simp only [locate, lead, isAbsolute, Bool.true_or, if_true, start_path, walked]

end FileTree

/-! ## A workspace whose links change -/

namespace Workspace

/-- From one moment to another nothing but links has changed. -/
structure Relinked (before after : Workspace) : Prop where
  directory_eq : after.directory = before.directory
  tree : before.tree.SameSolids after.tree

variable {before after : Workspace} {path : Path} {location : Location} {file : File}

/-- A path that has the same canonical path leads to the same file. -/
theorem Relinked.leadsTo (relinked : before.Relinked after)
    (leads : before.LeadsTo path location file)
    (same : after.canonicalize path = before.canonicalize path) :
    after.LeadsTo path location file := by
  obtain ⟨located, present⟩ := regular?_eq_some_iff.1 leads.regular
  have short := (FileTree.locate_eq_ok_iff.1 located).2.1
  have canonical := same.trans leads.canonical
  have locatedNow : after.locate path = .ok location :=
    FileTree.locate_of_canonicalize short canonical
  exact ⟨regular?_eq_some_iff.2 ⟨locatedNow, (relinked.tree.file?_eq location).trans present⟩,
    canonical⟩

/-- Links have no say in the time of a canonical path. -/
theorem Relinked.modified?_path (relinked : before.Relinked after)
    (leads : before.regular? path = some (location, file)) :
    after.modified? location.path = before.modified? location.path := by
  have grounded := grounded_of_regular? leads
  have present := (regular?_eq_some_iff.1 leads).2
  have here := file?_eq_some_iff.1 present
  have located_eq : after.locate location.path = before.locate location.path :=
    FileTree.locate_path_eq relinked.tree grounded present _ _
  rw [modified?, modified?, located_eq]
  cases located : before.locate location.path with
  | error fault => rfl
  | ok goal =>
    obtain rfl := FileTree.eq_of_locate_path (grounded.linkFree (by simp [here])) located
    simp only [FileTree.modified?, here, relinked.tree.entryAt?_eq here rfl]

end Workspace

end LiveShader
