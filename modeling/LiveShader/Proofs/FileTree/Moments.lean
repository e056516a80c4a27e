import LiveShader.Proofs.FileTree.Frame
import LiveShader.Stamp

/-!
# A workspace at two moments

Between two moments nothing but regular files changes. A path that leads to a regular
file then leads to one at the same place, or to none, and a stamp that is not stale tells
that the file is the same.
-/

namespace LiveShader

namespace Workspace

/-- From one moment to another nothing but regular files has changed. -/
structure SameFrame (before after : Workspace) : Prop where
  directory_eq : after.directory = before.directory
  tree : before.tree.SameFrame after.tree

variable {before after : Workspace} {path : Path} {location : Location} {file : File}

/-- Which of the moments is named first does not matter. -/
theorem SameFrame.symm (frame : before.SameFrame after) : after.SameFrame before :=
  ⟨frame.directory_eq.symm, frame.tree.symm⟩

/-- At one moment nothing has changed. -/
theorem SameFrame.refl (workspace : Workspace) : workspace.SameFrame workspace :=
  ⟨rfl, fun _ => rfl⟩

/-- Changes of regular files, one after the other, are changes of regular files. -/
theorem SameFrame.trans {last : Workspace} (first : before.SameFrame after)
    (second : after.SameFrame last) : before.SameFrame last :=
  ⟨second.directory_eq.trans first.directory_eq, first.tree.trans second.tree⟩

/-- A path leads to one place at both moments, or to nothing at the second. -/
theorem SameFrame.locate_lands (frame : before.SameFrame after)
    (located : before.locate path = .ok location) :
    after.tree.Lands location (after.locate path) := by
  rw [locate, frame.directory_eq]
  exact FileTree.locate_lands frame.tree located

/-- A path has one canonical path at both moments, or it leads to nothing at the second. -/
theorem SameFrame.canonicalize_lands (frame : before.SameFrame after)
    (canonical : before.canonicalize path = .ok location) :
    after.tree.Lands location (after.canonicalize path) := by
  rw [canonicalize, frame.directory_eq]
  exact FileTree.canonicalize_lands frame.tree canonical

/-- A path that led to a regular file still does so, if there is one at that place. -/
theorem SameFrame.regular?_of_file? (frame : before.SameFrame after) {other : File}
    (leads : before.regular? path = some (location, file))
    (present : after.tree.file? location = some other) :
    after.regular? path = some (location, other) := by
  rcases frame.locate_lands (regular?_eq_some_iff.1 leads).1 with located | ⟨nothing, -⟩
  · exact regular?_eq_some_iff.2 ⟨located, present⟩
  · rw [file?_eq_some_iff, nothing] at present
    cases present

/-- A path that led to a regular file leads to one at the same place, or to none. -/
theorem SameFrame.regular?_cases (frame : before.SameFrame after)
    (leads : before.regular? path = some (location, file)) :
    (∃ other, after.regular? path = some (location, other)) ∨ after.regular? path = none := by
  have here := file?_eq_some_iff.1 (regular?_eq_some_iff.1 leads).2
  rcases frame.tree.file_or_none here with ⟨other, there⟩ | nothing
  · exact .inl ⟨other, frame.regular?_of_file? leads (file?_eq_some_iff.2 there)⟩
  · refine .inr (Option.eq_none_iff_forall_ne_some.2 fun ⟨place, found⟩ leadsNow => ?_)
    obtain ⟨located, present⟩ := regular?_eq_some_iff.1 leadsNow
    rcases frame.locate_lands (regular?_eq_some_iff.1 leads).1 with same | ⟨-, fault, failed⟩
    · obtain rfl := Except.ok.inj (located.symm.trans same)
      rw [file?_eq_some_iff, nothing] at present
      cases present
    · rw [located] at failed
      cases failed

/-- A path that led to a regular file by its canonical path still does so, if there is a file at
that place. -/
theorem SameFrame.leadsTo_of_file? (frame : before.SameFrame after) {other : File}
    (leads : before.LeadsTo path location file)
    (present : after.tree.file? location = some other) : after.LeadsTo path location other := by
  refine ⟨frame.regular?_of_file? leads.regular present, ?_⟩
  rcases frame.canonicalize_lands leads.canonical with canonical | ⟨nothing, -⟩
  · exact canonical
  · rw [file?_eq_some_iff, nothing] at present
    cases present

/-- A path that led to a regular file by its canonical path does so, or it leads to none. -/
theorem SameFrame.leadsTo_cases (frame : before.SameFrame after)
    (leads : before.LeadsTo path location file) :
    (∃ other, after.LeadsTo path location other) ∨ after.regular? path = none := by
  rcases frame.regular?_cases leads.regular with ⟨other, leadsNow⟩ | nothing
  · have present := (regular?_eq_some_iff.1 leadsNow).2
    exact .inl ⟨other, frame.leadsTo_of_file? leads present⟩
  · exact .inr nothing

/-- A path that was too long for a regular file still is, or it leads to none. -/
theorem SameFrame.overlong_cases (frame : before.SameFrame after)
    (leads : before.regular? path = some (location, file)) (overlong : before.IsOverlong path) :
    (∃ other, after.regular? path = some (location, other) ∧ after.IsOverlong path) ∨
      after.regular? path = none := by
  rcases frame.regular?_cases leads with ⟨other, leadsNow⟩ | nothing
  · refine .inl ⟨other, leadsNow, (leadsTo_or_overlong leadsNow).resolve_left fun named => ?_⟩
    have namedBefore := frame.symm.leadsTo_of_file? named (regular?_eq_some_iff.1 leads).2
    rw [IsOverlong, namedBefore.canonical] at overlong
    cases overlong
  · exact .inr nothing

/-- A path that has a time leads to a regular file or a directory. -/
theorem exists_of_modified? {workspace : Workspace} {modified : Nat}
    (isTime : workspace.modified? path = some modified) :
    ∃ goal entry, workspace.locate path = .ok goal ∧ workspace.tree.entryAt? goal = some entry ∧
      ∀ target, entry ≠ .link target := by
  unfold modified? at isTime
  cases located : workspace.locate path with
  | error fault => simp [located] at isTime
  | ok goal =>
    rw [located] at isTime
    cases here : workspace.tree.entryAt? goal with
    | none => simp [FileTree.modified?, here] at isTime
    | some entry =>
      cases entry with
      | link target => simp [FileTree.modified?, here] at isTime
      | file | directory => exact ⟨goal, _, rfl, here, by simp⟩

/-- A path that led to no regular file leads to none while its time is the same. -/
theorem SameFrame.regular?_eq_none (frame : before.SameFrame after)
    (leads : before.regular? path = none)
    (unchanged : after.modified? path = before.modified? path) :
    after.regular? path = none := by
  refine Option.eq_none_iff_forall_ne_some.2 fun ⟨place, file⟩ leadsNow => ?_
  rw [modified?_of_regular? leadsNow] at unchanged
  obtain ⟨goal, entry, located, here, notLink⟩ := exists_of_modified? unchanged.symm
  cases entry with
  | link target => exact absurd rfl (notLink target)
  | file old =>
    have leadsBefore := regular?_eq_some_iff.2 ⟨located, file?_eq_some_iff.2 here⟩
    rw [leads] at leadsBefore
    cases leadsBefore
  | directory =>
    obtain ⟨locatedNow, present⟩ := regular?_eq_some_iff.1 leadsNow
    have there := frame.tree.entryAt?_eq here (by simp)
    rcases frame.locate_lands located with same | ⟨nothing, -⟩
    · obtain rfl := Except.ok.inj (locatedNow.symm.trans same)
      rw [file?_eq_some_iff, there] at present
      cases present
    · rw [nothing] at there
      cases there

/-- Where a canonical path has a time, it leads to the regular file at its place, if there
was one before. -/
theorem SameFrame.regular?_path (frame : before.SameFrame after)
    (leads : before.regular? path = some (location, file))
    {modified : Nat} (isTime : after.modified? location.path = some modified) :
    ∃ other, after.regular? location.path = some (location, other) ∧ other.modified = modified := by
  have present := file?_eq_some_iff.1 (regular?_eq_some_iff.1 leads).2
  have grounded := frame.tree.grounded (grounded_of_regular? leads)
  obtain ⟨goal, entry, located, here, -⟩ := exists_of_modified? isTime
  rcases frame.tree.file_or_none present with ⟨other, there⟩ | nothing
  · obtain rfl := FileTree.eq_of_locate_path (grounded.linkFree (by simp [there])) located
    have leadsNow := regular?_eq_some_iff.2 ⟨located, file?_eq_some_iff.2 there⟩
    exact ⟨other, leadsNow, Option.some.inj ((modified?_of_regular? leadsNow).symm.trans isTime)⟩
  · obtain rfl := FileTree.eq_of_locate_path (grounded.linkFree (by simp [nothing])) located
    rw [nothing] at here
    cases here

/-! ## Writing a file -/

/-- The workspace after a regular file was written. -/
def write (workspace : Workspace) (location : Location) (file : File) : Workspace :=
  { workspace with tree := workspace.tree.insert location (.file file) }

/-- Writing a regular file keeps the frame of a workspace. -/
theorem sameFrame_write {workspace : Workspace} (free : workspace.tree.fixture? location = none)
    (file : File) : workspace.SameFrame (workspace.write location file) :=
  ⟨rfl, FileTree.sameFrame_insert free file⟩

/-- A path leads to the same file before and after a write that did not go there. -/
theorem eq_of_regular?_write {workspace : Workspace} {place other : Location} {old new : File}
    (free : workspace.tree.fixture? location = none)
    (leads : workspace.regular? path = some (place, old))
    (leadsNow : (workspace.write location file).regular? path = some (other, new)) :
    (place = location ∧ new = file) ∨ new = old := by
  obtain ⟨located, present⟩ := regular?_eq_some_iff.1 leads
  obtain ⟨locatedNow, presentNow⟩ := regular?_eq_some_iff.1 leadsNow
  have below : location ≠ [] := by
    rintro rfl
    simp [FileTree.fixture?, FileTree.entryAt?] at free
  rcases (sameFrame_write free file).locate_lands located with same | ⟨-, fault, failed⟩
  · obtain rfl := Except.ok.inj (locatedNow.symm.trans same)
    rw [file?_eq_some_iff] at present presentNow
    rw [write, FileTree.entryAt?_insert below] at presentNow
    split at presentNow
    · rename_i here
      exact .inl ⟨here, (Entry.file.inj (Option.some.inj presentNow)).symm⟩
    · exact .inr (Entry.file.inj (Option.some.inj (presentNow.symm.trans present)))
  · rw [locatedNow] at failed
    cases failed

/-! ## Times that tell -/

/-- One moment comes before another, and times tell what files hold: where a path leads to
regular files with the same time, they hold the same bytes. -/
structure Precedes (before after : Workspace) : Prop where
  frame : before.SameFrame after
  tells : ∀ path location other file file', before.regular? path = some (location, file) →
    after.regular? path = some (other, file') → file.modified = file'.modified →
      file.bytes = file'.bytes

/-- A file whose stamp is not stale is the same. -/
theorem Precedes.file?_eq (precedes : before.Precedes after)
    (leads : before.regular? path = some (location, file))
    (fresh : Stamp.isStale after ⟨location.path, some file.modified⟩ = false) :
    after.tree.file? location = some file := by
  have present := (regular?_eq_some_iff.1 leads).2
  have isTime : after.modified? location.path = some file.modified := by
    simpa [Stamp.isStale] using fresh
  obtain ⟨other, leadsNow, modified_eq⟩ := precedes.frame.regular?_path leads isTime
  have leadsBefore := precedes.frame.symm.regular?_of_file? leadsNow present
  have bytes_eq := precedes.tells _ _ _ _ _ leadsBefore leadsNow modified_eq.symm
  have same : other = file := by
    obtain ⟨bytes, modified⟩ := file
    obtain ⟨otherBytes, otherModified⟩ := other
    obtain rfl : bytes = otherBytes := bytes_eq
    obtain rfl : otherModified = modified := modified_eq
    rfl
  exact same ▸ (regular?_eq_some_iff.1 leadsNow).2

/-- A path still leads to a file whose stamp is not stale. -/
theorem Precedes.leadsTo (precedes : before.Precedes after)
    (leads : before.LeadsTo path location file)
    (fresh : Stamp.isStale after ⟨location.path, some file.modified⟩ = false) :
    after.LeadsTo path location file :=
  precedes.frame.leadsTo_of_file? leads (precedes.file?_eq leads.regular fresh)

/-- A path whose stamp is not stale still leads to no regular file. -/
theorem Precedes.regular?_eq_none (precedes : before.Precedes after)
    (leads : before.regular? path = none)
    (fresh : (before.stamp path).isStale after = false) : after.regular? path = none :=
  precedes.frame.regular?_eq_none leads (by simpa [Stamp.isStale, stamp] using fresh)

end Workspace

end LiveShader
