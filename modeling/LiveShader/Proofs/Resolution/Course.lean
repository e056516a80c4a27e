import LiveShader.Proofs.Resolution.Unfolding

/-!
# The course of a resolution

`Expands` says how the expansion of an entry file goes. `resolve_ok_iff` is the form in
which success is used: a resolution succeeds exactly if it has a `Course`, and then all of
it is read off the emissions of that course.
-/

namespace LiveShader

namespace Workspace

variable {workspace : Workspace} {limits : ResolutionLimits}

/-- What expanding an entry file emits, and why it stops, if it does. -/
inductive Expands (workspace : Workspace) (limits : ResolutionLimits) (location : Location)
    (file : File) : List Emission → Option Halt → Prop where
  | tooMany (full : limits.maxFiles = 0) :
      Expands workspace limits location file []
        (some ⟨.tooManyIncludes location.path limits.maxFiles, none⟩)
  | unreadable (room : 0 < limits.maxFiles) (notText : file.text? = none) :
      Expands workspace limits location file [.opened location file]
        (some ⟨.unreadable location.path Fault.notUtf8.message, none⟩)
  | lines {text emissions halt} (room : 0 < limits.maxFiles) (isText : file.text? = some text)
      (unfolds : workspace.Unfolds limits limits.maxDepth location 0 [location]
        (numberedLines text) emissions halt) :
      Expands workspace limits location file (.opened location file :: emissions) halt

/-- Every entry file has a course. -/
theorem exists_expands (workspace : Workspace) (limits : ResolutionLimits) (location : Location)
    (file : File) : ∃ emissions halt, workspace.Expands limits location file emissions halt := by
  by_cases full : limits.maxFiles = 0
  · exact ⟨_, _, .tooMany full⟩
  · have room : 0 < limits.maxFiles := Nat.pos_of_ne_zero full
    cases isText : file.text? with
    | none => exact ⟨_, _, .unreadable room isText⟩
    | some text =>
      obtain ⟨emissions, halt, unfolds⟩ := exists_unfolds limits.maxDepth location 0 [location]
        (numberedLines text)
      exact ⟨_, _, .lines room isText unfolds⟩

variable {location : Location} {file : File} {emissions : List Emission} {halt : Option Halt}

/-- An expansion that ends is finished with what it emitted. -/
theorem Expands.expandEntry_eq (expands : workspace.Expands limits location file emissions halt) :
    workspace.expandEntry limits location file =
      ((Draft.empty (Location.path location.dropLast)).emitAll emissions).finish halt := by
  rw [expandEntry, expand_succ]
  cases expands with
  | tooMany full =>
    rw [if_pos (by rw [full]; exact Nat.zero_le _)]
    rfl
  | unreadable room notText =>
    rw [if_neg (by simpa [Draft.empty, Provenance.empty, Provenance.size] using Nat.ne_of_gt room)]
    simp only [notText]
    rfl
  | lines room isText unfolds =>
    rw [if_neg (by simpa [Draft.empty, Provenance.empty, Provenance.size] using Nat.ne_of_gt room)]
    simp only [isText]
    exact unfolds.foldlM_eq ((Draft.opened_empty _).openFile location file)

/-- The draft that the expansion of an entry file grew. -/
def entryDraft (location : Location) (emissions : List Emission) : Draft :=
  (Draft.empty (Location.path location.dropLast)).emitAll emissions

/-- A resolution ends as the course of its entry file does. -/
theorem Expands.resolve_eq {entry : Path}
    (expands : workspace.Expands limits location file emissions halt)
    (leads : workspace.LeadsTo entry location file) :
    workspace.resolve entry limits = (entryDraft location emissions).conclude halt := by
  rw [resolve, attemptResolve]
  simp only [leads.regular, leads.canonical, expands.expandEntry_eq]
  cases halt <;> rfl

/-- A resolution without an entry file leaves the stamp of the entry. -/
theorem resolve_of_missing {entry : Path} (leads : workspace.regular? entry = none) :
    workspace.resolve entry limits =
      .error ⟨.missingFile entry none, [workspace.stamp entry]⟩ := by
  simp [resolve, attemptResolve, leads]

/-- A resolution whose entry file has no canonical path leaves the stamp of the entry. -/
theorem resolve_of_overlong {entry : Path}
    (leads : workspace.regular? entry = some (location, file))
    (overlong : workspace.IsOverlong entry) :
    workspace.resolve entry limits =
      .error ⟨.unreadable entry Fault.nameTooLong.message, [workspace.stamp entry]⟩ := by
  rw [IsOverlong] at overlong
  simp [resolve, attemptResolve, leads, overlong]

/-- What a successful resolution went through. -/
structure Course (workspace : Workspace) (entry : Path) (limits : ResolutionLimits)
    (resolution : Resolution) where
  location : Location
  file : File
  text : String
  emissions : List Emission
  leads : workspace.LeadsTo entry location file
  room : 0 < limits.maxFiles
  isText : file.text? = some text
  unfolds : workspace.Unfolds limits limits.maxDepth location 0 [location] (numberedLines text)
    emissions none
  resolution_eq : resolution =
    ⟨⟨(entryDraft location (.opened location file :: emissions)).lines⟩,
      (entryDraft location (.opened location file :: emissions)).provenance⟩

/-- A resolution succeeds exactly if it has a course. -/
theorem resolve_ok_iff {entry : Path} {resolution : Resolution} :
    workspace.resolve entry limits = .ok resolution ↔
      Nonempty (workspace.Course entry limits resolution) := by
  constructor
  · intro resolved
    rcases workspace.leads_cases entry with
      leads | ⟨location, file, leads, overlong⟩ | ⟨location, file, leads⟩
    · simp [resolve_of_missing leads] at resolved
    · simp [resolve_of_overlong leads overlong] at resolved
    · obtain ⟨emissions, halt, expands⟩ := exists_expands workspace limits location file
      have resolve_eq := expands.resolve_eq leads
      cases expands with
      | tooMany full => simp [resolved, Draft.conclude] at resolve_eq
      | unreadable room notText => simp [resolved, Draft.conclude] at resolve_eq
      | lines room isText unfolds =>
        cases halt with
        | some halt => simp [resolved, Draft.conclude] at resolve_eq
        | none =>
          exact ⟨⟨location, file, _, _, leads, room, isText, unfolds,
            Except.ok.inj (resolved.symm.trans resolve_eq)⟩⟩
  · rintro ⟨course⟩
    have expands := Expands.lines course.room course.isText course.unfolds
    exact (expands.resolve_eq course.leads).trans (congrArg Except.ok course.resolution_eq.symm)

namespace Course

variable {entry : Path} {resolution : Resolution}

/-- All that was emitted, the opening of the entry file included. -/
def trace (course : workspace.Course entry limits resolution) : List Emission :=
  .opened course.location course.file :: course.emissions

/-- The files that were opened, in the order of the contributors. -/
def opened (course : workspace.Course entry limits resolution) : List Location :=
  Emission.locations course.trace

variable (course : workspace.Course entry limits resolution)

/-- A course opens its entry first. -/
theorem opened_eq : course.opened = course.location :: Emission.locations course.emissions := rfl

/-- The entry file is at its place. -/
theorem file?_location : workspace.tree.file? course.location = some course.file :=
  course.leads.present

/-- What is recorded of a unit is what its course emits. -/
theorem provenance_eq :
    resolution.provenance = (entryDraft course.location course.trace).provenance :=
  congrArg Resolution.provenance course.resolution_eq

/-- The lines of a unit are those that its course emits. -/
theorem unit_lines_eq : resolution.unit.lines = (Emission.lines course.trace).map Prod.snd :=
  (congrArg (fun made => made.unit.lines) course.resolution_eq).trans
    (Draft.lines_emitAll _ course.trace)

/-- The contributors of a unit have the paths of the opened files, in that order. -/
theorem paths_eq :
    resolution.provenance.contributors.map Contributor.path =
      course.opened.map Location.path := by
  rw [provenance_eq course]
  exact Draft.paths_emitAll _ course.trace

/-- The stamps of a unit are those of the opened files. -/
theorem stamps_eq : resolution.provenance.stamps = Emission.stamps course.trace := by
  rw [provenance_eq course]
  exact Draft.stamps_emitAll _ course.trace

/-- A unit has as many contributors as files were opened. -/
theorem length_contributors :
    resolution.provenance.contributors.length = course.opened.length := by
  simpa using congrArg List.length course.paths_eq

/-- A contributor is the file that was opened at its index. -/
theorem path_of_contributor {index : Nat} {contributor : Contributor}
    (atIndex : resolution.provenance.contributors[index]? = some contributor) :
    ∃ location, course.opened[index]? = some location ∧ contributor.path = location.path := by
  have paths := congrArg (·[index]?) course.paths_eq
  simp only [List.getElem?_map, atIndex, Option.map_some] at paths
  obtain ⟨location, here, same⟩ := Option.map_eq_some_iff.1 paths.symm
  exact ⟨location, here, same.symm⟩

/-- A file that was opened is the contributor at its index. -/
theorem contributor_of_opened {index : Nat} {location : Location}
    (atIndex : course.opened[index]? = some location) :
    ∃ contributor, resolution.provenance.contributors[index]? = some contributor ∧
      contributor.path = location.path := by
  have inside : index < resolution.provenance.contributors.length := by
    rw [course.length_contributors]
    exact (List.getElem?_eq_some_iff.1 atIndex).1
  have recorded := List.getElem?_eq_getElem inside
  obtain ⟨other, otherAt, path_eq⟩ := course.path_of_contributor recorded
  obtain rfl := Option.some.inj (atIndex.symm.trans otherAt)
  exact ⟨_, recorded, path_eq⟩

/-- The provenance keeps the origins of all lines that were emitted. -/
theorem records :
    resolution.provenance.Records ((Emission.lines course.trace).map Prod.fst) := by
  have openedEntry := (Draft.opened_empty (Location.path course.location.dropLast)).openFile
    course.location course.file
  have records := course.unfolds.records openedEntry (by simp)
    ((Provenance.Records.empty _).addContributor course.location.path
      (some course.file.modified))
  rw [provenance_eq course]
  exact records

end Course

/-! ## Entangled files -/

namespace Entangled

def top : Location := [⟨"top", by decide⟩]

def folder : Location := [⟨"d", by decide⟩]

def low : Location := [⟨"d", by decide⟩, ⟨"low", by decide⟩]

def void : Location := [⟨"d", by decide⟩, ⟨"e", by decide⟩]

def link : Location := [⟨"l", by decide⟩]

end Entangled

/-- A workspace of entangled files: `top` includes `d/low` twice, the second time over the
link `l`, and `d/low` includes `top` back and an empty file. -/
def entangled : Workspace where
  tree := ⟨[
    (Entangled.top, .file ⟨"#include \"d/low\"\nx\n#include \"l\"".toUTF8, 1⟩),
    (Entangled.folder, .directory),
    (Entangled.low, .file ⟨"y\n#include \"../top\"\n#include \"e\"\nz\n".toUTF8, 2⟩),
    (Entangled.void, .file ⟨"".toUTF8, 3⟩),
    (Entangled.link, .link ⟨"d/low"⟩)], fun _ => 0⟩
  directory := []

end Workspace

end LiveShader
