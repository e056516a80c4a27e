import LiveShader.Watcher

/-!
# Sorted sets of directories

Paths are compared step by step, in a linear order in which paths are equal that take the same
steps. So a sorted set of paths holds each of them once, in one of its spellings, and the
directories that are watched are exactly the parents of the watched files, unless the system
refuses to watch one of them (`watchesParents_of_synced`, `watcher_of_refused`).
-/

namespace LiveShader

namespace Path

/-! ## The order of paths -/

/-- The text of a step, if it is a name. -/
def Component.word : Component → String
  | .name text => text
  | _ => ""

/-- Steps are compared by their kinds first. -/
theorem Component.compare_eq_compareLex :
    Component.compare = compareLex (compareOn Component.compare.rank) (compareOn word) := by
  funext left right
  cases left <;> cases right <;> rfl

instance : Std.TransCmp Component.compare := by
  rw [Component.compare_eq_compareLex]
  infer_instance

/-- Components that compare as equal are the same. -/
theorem Component.eq_of_compare {left right : Component} (equal : left.compare right = .eq) :
    left = right := by
  cases left with
  | name text =>
    cases right with
    | name other =>
      have sameText : Ord.compare text other = .eq := equal
      exact congrArg Component.name (Std.LawfulEqCmp.eq_of_compare sameText)
    | root | here | up => cases equal
  | root | here | up => cases right <;> first | rfl | cases equal

instance : Std.LawfulEqCmp Component.compare where
  eq_of_compare := Component.eq_of_compare

/-- Steps are compared in lexicographic order. -/
theorem compareSteps_eq_compareLex :
    compare.compareSteps = List.compareLex Component.compare := by
  funext left right
  induction left generalizing right with
  | nil => cases right <;> rfl
  | cons step steps inductionHypothesis =>
    cases right with
    | nil => rfl
    | cons other others =>
      rw [compare.compareSteps, inductionHypothesis, List.compareLex_cons_cons]

/-- Paths are equal in the order exactly if they take the same steps. -/
theorem compare_eq_iff {left right : Path} : left.compare right = .eq ↔ left.Same right := by
  rw [compare, compareSteps_eq_compareLex, Std.LawfulEqCmp.compare_eq_iff_eq, Same]

/-- The order of paths is transitive. -/
theorem compare_lt_trans {first second third : Path} (lower : first.compare second = .lt)
    (upper : second.compare third = .lt) : first.compare third = .lt := by
  rw [compare, compareSteps_eq_compareLex] at *
  exact Std.TransCmp.lt_trans lower upper

/-- A path above another has the other one below it. -/
theorem compare_lt_of_gt {left right : Path} (greater : left.compare right = .gt) :
    right.compare left = .lt := by
  rw [compare, compareSteps_eq_compareLex] at *
  exact Std.OrientedCmp.lt_of_gt greater

/-! ## Sorted sets -/

variable {path other : Path} {paths : List Path}

/-- What is in a list that a path was put into was there before, or is the path. -/
theorem eq_or_mem_of_mem_insertSorted (member : other ∈ insertSorted path paths) :
    other = path ∨ other ∈ paths := by
  induction paths with
  | nil => exact .inl (List.mem_singleton.1 member)
  | cons head tail inductionHypothesis =>
    rw [insertSorted] at member
    split at member
    · exact List.mem_cons.1 member
    · exact .inr member
    · rcases List.mem_cons.1 member with rfl | later
      · exact .inr List.mem_cons_self
      · exact (inductionHypothesis later).imp_right (List.mem_cons_of_mem _)

/-- What was in a list stays there where a path is put into it. -/
theorem mem_insertSorted_of_mem (member : other ∈ paths) : other ∈ insertSorted path paths := by
  induction paths with
  | nil => cases member
  | cons head tail inductionHypothesis =>
    rw [insertSorted]
    split
    · exact List.mem_cons_of_mem _ member
    · exact member
    · rcases List.mem_cons.1 member with rfl | later
      · exact List.mem_cons_self
      · exact List.mem_cons_of_mem _ (inductionHypothesis later)

/-- A path is in a set that it is added to, in some spelling. -/
theorem exists_same_mem_insertSorted (path : Path) (paths : List Path) :
    ∃ spelling ∈ insertSorted path paths, spelling.Same path := by
  induction paths with
  | nil => exact ⟨path, List.mem_cons_self, rfl⟩
  | cons head tail inductionHypothesis =>
    rw [insertSorted]
    split
    · exact ⟨path, List.mem_cons_self, rfl⟩
    · exact ⟨head, List.mem_cons_self, (compare_eq_iff.1 ‹_›).symm⟩
    · obtain ⟨spelling, member, same⟩ := inductionHypothesis
      exact ⟨spelling, List.mem_cons_of_mem _ member, same⟩

/-- The order is kept. -/
theorem pairwise_insertSorted (inOrder : paths.Pairwise fun first second =>
      first.compare second = .lt) (path : Path) :
    (insertSorted path paths).Pairwise fun first second => first.compare second = .lt := by
  induction paths with
  | nil => exact List.pairwise_singleton _ _
  | cons head tail inductionHypothesis =>
    obtain ⟨first, rest⟩ := List.pairwise_cons.1 inOrder
    rw [insertSorted]
    split
    · rename_i less
      refine List.pairwise_cons.2 ⟨List.forall_mem_cons.2 ⟨less, fun other member => ?_⟩, inOrder⟩
      exact compare_lt_trans less (first other member)
    · exact inOrder
    · rename_i greater
      refine List.pairwise_cons.2 ⟨fun other member => ?_, inductionHypothesis rest⟩
      rcases eq_or_mem_of_mem_insertSorted member with rfl | later
      · exact compare_lt_of_gt greater
      · exact first other later

/-- A set of paths holds only paths that were listed. -/
theorem mem_of_mem_sortedSet (member : path ∈ sortedSet paths) : path ∈ paths := by
  induction paths with
  | nil => cases member
  | cons head tail inductionHypothesis =>
    rcases eq_or_mem_of_mem_insertSorted member with rfl | later
    · exact List.mem_cons_self
    · exact List.mem_cons_of_mem _ (inductionHypothesis later)

/-- A set of paths holds a spelling of each path that was listed. -/
theorem exists_same_mem_sortedSet (member : path ∈ paths) :
    ∃ spelling ∈ sortedSet paths, spelling.Same path := by
  induction paths with
  | nil => cases member
  | cons head tail inductionHypothesis =>
    rcases List.mem_cons.1 member with rfl | later
    · exact exists_same_mem_insertSorted path (sortedSet tail)
    · obtain ⟨spelling, known, same⟩ := inductionHypothesis later
      exact ⟨spelling, mem_insertSorted_of_mem known, same⟩

/-- A sorted set holds no path in two spellings. -/
theorem pairwise_sortedSet (paths : List Path) :
    (sortedSet paths).Pairwise fun first second => first.compare second = .lt := by
  induction paths with
  | nil => exact .nil
  | cons head tail inductionHypothesis => exact pairwise_insertSorted inductionHypothesis head

end Path

namespace Watcher

variable {State Compiled Program : Type} {watcher : Watcher State Compiled Program}
  {workspace : Workspace} {notifier : Notifier} {failure : WatchFailure}

/-- The directories that are watched are the parents of the files whose stamps decide, as far as
those are directories, in the order of paths and each once. -/
structure WatchesParents (watcher : Watcher State Compiled Program) (workspace : Workspace) :
    Prop where
  sound : ∀ directory ∈ watcher.directories, workspace.isDirectory directory = true ∧
    ∃ stamp ∈ watcher.shader.stamps, stamp.path.parent? = some directory
  complete : ∀ stamp ∈ watcher.shader.stamps, ∀ parent, stamp.path.parent? = some parent →
    workspace.isDirectory parent = true → ∃ directory ∈ watcher.directories, directory.Same parent
  inOrder : watcher.directories.Pairwise fun first second => first.compare second = .lt

/-- The system refused to watch a parent of a file whose stamp decides. -/
structure Refused (shader : Shader State Compiled Program) (workspace : Workspace)
    (notifier : Notifier) (failure : WatchFailure) : Prop where
  answer : notifier failure.directory = some failure.cause
  isDirectory : workspace.isDirectory failure.directory = true
  isParent : ∃ stamp ∈ shader.stamps, stamp.path.parent? = some failure.directory

/-- What is wanted are parents of the files whose stamps decide. -/
theorem mem_wantedDirectories {shader : Shader State Compiled Program} {directory : Path}
    (wanted : directory ∈ wantedDirectories workspace shader.touchedFiles) :
    workspace.isDirectory directory = true ∧
      ∃ stamp ∈ shader.stamps, stamp.path.parent? = some directory := by
  obtain ⟨isParent, isDirectory⟩ := List.mem_filter.1 (Path.mem_of_mem_sortedSet wanted)
  obtain ⟨file, touched, parent_eq⟩ := List.mem_filterMap.1 isParent
  obtain ⟨stamp, isStamp, rfl⟩ := List.mem_map.1 touched
  exact ⟨isDirectory, stamp, isStamp, parent_eq⟩

/-- Each parent of a file whose stamp decides is wanted, in some spelling. -/
theorem exists_same_mem_wantedDirectories {shader : Shader State Compiled Program} {stamp : Stamp}
    {parent : Path} (isStamp : stamp ∈ shader.stamps) (parent_eq : stamp.path.parent? = some parent)
    (isDirectory : workspace.isDirectory parent = true) :
    ∃ directory ∈ wantedDirectories workspace shader.touchedFiles, directory.Same parent :=
  Path.exists_same_mem_sortedSet (List.mem_filter.2
    ⟨List.mem_filterMap.2 ⟨stamp.path, List.mem_map_of_mem isStamp, parent_eq⟩, isDirectory⟩)

/-- A directory that is refused is one of those that were to be watched. -/
theorem refused_of_watchAll {directories : List Path}
    (refused : (watchAll notifier directories).2 = some failure) :
    failure.directory ∈ directories ∧ notifier failure.directory = some failure.cause := by
  induction directories with
  | nil => cases refused
  | cons directory rest inductionHypothesis =>
    rw [watchAll] at refused
    cases answer : notifier directory with
    | some cause =>
      simp only [answer, Option.some.injEq] at refused
      exact refused ▸ ⟨List.mem_cons_self, answer⟩
    | none =>
      simp only [answer] at refused
      obtain ⟨member, answer⟩ := inductionHypothesis refused
      exact ⟨List.mem_cons_of_mem _ member, answer⟩

/-- Where no directory is refused, the parents are watched. -/
theorem watchesParents_of_synced
    (synced : (watcher.syncDirectories workspace notifier).failure = none) :
    (watcher.syncDirectories workspace notifier).watcher.WatchesParents workspace := by
  have watcher_eq : (watcher.syncDirectories workspace notifier).watcher =
      { watcher with directories := wantedDirectories workspace watcher.shader.touchedFiles } := by
    simp only [syncDirectories] at synced ⊢
    rw [if_pos (by simp [synced])]
  rw [watcher_eq]
  exact ⟨fun _ => mem_wantedDirectories,
    fun _ isStamp _ parent_eq isDirectory =>
      exists_same_mem_wantedDirectories isStamp parent_eq isDirectory,
    Path.pairwise_sortedSet _⟩

/-- Where a directory is refused, the watcher stays as it was. -/
theorem watcher_of_refused
    (refused : (watcher.syncDirectories workspace notifier).failure = some failure) :
    (watcher.syncDirectories workspace notifier).watcher = watcher ∧
      Refused watcher.shader workspace notifier failure := by
  obtain ⟨member, answer⟩ := refused_of_watchAll refused
  obtain ⟨isDirectory, isParent⟩ := mem_wantedDirectories (List.mem_filter.1 member).1
  refine ⟨?_, answer, isDirectory, isParent⟩
  simp only [syncDirectories] at refused ⊢
  rw [if_neg (by simp [refused])]

/-- A willing system refuses nothing. -/
theorem syncDirectories_willing (watcher : Watcher State Compiled Program) (workspace : Workspace) :
    (watcher.syncDirectories workspace .willing).failure = none := by
  cases outcome : (watcher.syncDirectories workspace .willing).failure with
  | none => rfl
  | some failure => cases (watcher_of_refused outcome).2.answer

/-- Where the system watches every directory, a watcher begins as `new` makes it. -/
theorem start_willing (shader : Shader State Compiled Program) (workspace : Workspace) :
    start shader workspace .willing = (.ok (new shader workspace).1, (new shader workspace).2) := by
  simp only [start, new, syncDirectories_willing, Option.elim_none]

end Watcher

end LiveShader
