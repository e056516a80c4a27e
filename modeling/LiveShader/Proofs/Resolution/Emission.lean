import LiveShader.Proofs.FileTree.Canonical
import LiveShader.Proofs.Provenance.Origins
import LiveShader.Resolution.Expansion

/-!
# What an expansion emits

An expansion changes its draft in three ways only: it opens a file, or it adds a line of
code or a placeholder. As a list, these emissions are all there is to say of a draft: its
lines, its files and their stamps are read off the list.
-/

namespace LiveShader

/-- One step of a draft. -/
inductive Emission where
  | opened (location : Location) (file : File)
  | code (index localLine : Nat) (text : String)
  | repeated (index localLine : Nat) (includer target : Location)

namespace Emission

/-- The location of the file that was opened. -/
def opened? : Emission → Option Location
  | .opened location _ => some location
  | _ => none

/-- The stamp of the file that was opened. -/
def stamp? : Emission → Option Stamp
  | .opened location file => some ⟨location.path, some file.modified⟩
  | _ => none

/-- The line that was added, with its origin. -/
def line? : Emission → Option (Origin × String)
  | .opened _ _ => none
  | .code index localLine text => some (.own index localLine, text)
  | .repeated index localLine _ _ => some (.repeated index localLine, "")

/-- The files that were opened, in their order. -/
def locations (emissions : List Emission) : List Location :=
  emissions.filterMap opened?

/-- The stamps of the files that were opened, in their order. -/
def stamps (emissions : List Emission) : List Stamp :=
  emissions.filterMap stamp?

/-- The lines that were added, in their order. -/
def lines (emissions : List Emission) : List (Origin × String) :=
  emissions.filterMap line?

section Lists

variable (first second emissions : List Emission)

@[simp] theorem locations_nil : locations [] = [] := rfl

@[simp] theorem stamps_nil : stamps [] = [] := rfl

@[simp] theorem lines_nil : lines [] = [] := rfl

/-- Emissions one after the other come to the locations of both. -/
@[simp] theorem locations_append :
    locations (first ++ second) = locations first ++ locations second :=
  List.filterMap_append

/-- Emissions one after the other come to the stamps of both. -/
@[simp] theorem stamps_append : stamps (first ++ second) = stamps first ++ stamps second :=
  List.filterMap_append

/-- Emissions one after the other come to the lines of both. -/
@[simp] theorem lines_append : lines (first ++ second) = lines first ++ lines second :=
  List.filterMap_append

@[simp] theorem locations_opened (location : Location) (file : File) :
    locations (.opened location file :: emissions) = location :: locations emissions := rfl

@[simp] theorem stamps_opened (location : Location) (file : File) :
    stamps (.opened location file :: emissions) =
      ⟨location.path, some file.modified⟩ :: stamps emissions := rfl

@[simp] theorem lines_opened (location : Location) (file : File) :
    lines (.opened location file :: emissions) = lines emissions := rfl

@[simp] theorem locations_code (index localLine : Nat) (text : String) :
    locations (.code index localLine text :: emissions) = locations emissions := rfl

@[simp] theorem stamps_code (index localLine : Nat) (text : String) :
    stamps (.code index localLine text :: emissions) = stamps emissions := rfl

@[simp] theorem lines_code (index localLine : Nat) (text : String) :
    lines (.code index localLine text :: emissions) =
      (.own index localLine, text) :: lines emissions := rfl

@[simp] theorem locations_repeated (index localLine : Nat) (includer target : Location) :
    locations (.repeated index localLine includer target :: emissions) = locations emissions := rfl

@[simp] theorem stamps_repeated (index localLine : Nat) (includer target : Location) :
    stamps (.repeated index localLine includer target :: emissions) = stamps emissions := rfl

@[simp] theorem lines_repeated (index localLine : Nat) (includer target : Location) :
    lines (.repeated index localLine includer target :: emissions) =
      (.repeated index localLine, "") :: lines emissions := rfl

end Lists

/-- A stamp is that of a file that was opened. -/
theorem exists_location_of_mem_stamps {emissions : List Emission} {stamp : Stamp}
    (isStamp : stamp ∈ stamps emissions) :
    ∃ place ∈ locations emissions, stamp.path = place.path := by
  obtain ⟨emission, member, isOpening⟩ := List.mem_filterMap.1 isStamp
  cases emission with
  | opened place file =>
    obtain rfl := Option.some.inj isOpening
    exact ⟨place, List.mem_filterMap.2 ⟨_, member, rfl⟩, rfl⟩
  | code | repeated => cases isOpening

end Emission

/-- A property that a provenance keeps whatever it grows by. -/
structure Provenance.KeptByGrowth (holds : Provenance → Prop) : Prop where
  addContributor : ∀ {provenance}, holds provenance →
    ∀ path modified, holds (provenance.addContributor path modified)
  addOwned : ∀ {provenance}, holds provenance →
    ∀ index localLine, holds (provenance.addOwned index localLine)
  addPlaceholder : ∀ {provenance}, holds provenance →
    ∀ index localLine, holds (provenance.addPlaceholder index localLine)

namespace Draft

/-- Take one step. -/
def emit (draft : Draft) : Emission → Draft
  | .opened location file => draft.openFile location file
  | .code index localLine text => draft.addCode index localLine text
  | .repeated index localLine includer target =>
    draft.addRepeated index localLine includer.path target.path

@[simp] theorem emit_opened (draft : Draft) (location : Location) (file : File) :
    draft.emit (.opened location file) = draft.openFile location file := rfl

@[simp] theorem emit_code (draft : Draft) (index localLine : Nat) (text : String) :
    draft.emit (.code index localLine text) = draft.addCode index localLine text := rfl

@[simp] theorem emit_repeated (draft : Draft) (index localLine : Nat)
    (includer target : Location) :
    draft.emit (.repeated index localLine includer target) =
      draft.addRepeated index localLine includer.path target.path := rfl

/-- Take steps in their order. -/
def emitAll (draft : Draft) (emissions : List Emission) : Draft :=
  emissions.foldl emit draft

variable (draft : Draft)

@[simp] theorem emitAll_nil : draft.emitAll [] = draft := rfl

@[simp] theorem emitAll_cons (emission : Emission) (emissions : List Emission) :
    draft.emitAll (emission :: emissions) = (draft.emit emission).emitAll emissions := rfl

/-- Emissions one after the other are emitted one after the other. -/
@[simp] theorem emitAll_append (first second : List Emission) :
    draft.emitAll (first ++ second) = (draft.emitAll first).emitAll second :=
  List.foldl_append

/-- The paths of the files of a draft. -/
def paths (draft : Draft) : List Path :=
  draft.provenance.contributors.map Contributor.path

/-- A draft holds as many contributors as paths. -/
theorem size_eq_length_paths : draft.provenance.size = draft.paths.length := by
  simp [Provenance.size, paths]

/-- A draft knows a path exactly if one of its paths is the same. -/
theorem contains_iff (path : Path) :
    draft.provenance.contains path = true ↔ ∃ known ∈ draft.paths, known.Same path := by
  simp only [Provenance.contains, Provenance.get?, List.find?_isSome, paths, List.mem_map,
    decide_eq_true_eq]
  exact ⟨fun ⟨contributor, member, same⟩ => ⟨_, ⟨contributor, member, rfl⟩, same⟩,
    fun ⟨_, ⟨contributor, member, rfl⟩, same⟩ => ⟨contributor, member, same⟩⟩

/-- What is emitted adds the paths of the files that are opened. -/
theorem paths_emitAll (emissions : List Emission) :
    (draft.emitAll emissions).paths =
      draft.paths ++ (Emission.locations emissions).map Location.path := by
  induction emissions generalizing draft with
  | nil => simp
  | cons emission rest inductionHypothesis =>
    rw [emitAll_cons, inductionHypothesis]
    cases emission with
    | opened location file =>
      simp [paths, openFile, Provenance.addContributor]
    | code index localLine text =>
      simp [paths, addCode, Provenance.addOwned,
        Contributor.map_modify_addOwned (f := Contributor.path) fun _ _ _ => rfl]
    | repeated index localLine includer target =>
      simp [paths, addRepeated, Provenance.addPlaceholder]

/-- What is emitted adds the stamps of the files that are opened. -/
theorem stamps_emitAll (emissions : List Emission) :
    (draft.emitAll emissions).provenance.stamps =
      draft.provenance.stamps ++ Emission.stamps emissions := by
  induction emissions generalizing draft with
  | nil => simp
  | cons emission rest inductionHypothesis =>
    rw [emitAll_cons, inductionHypothesis]
    cases emission with
    | opened location file =>
      simp [openFile, Provenance.stamps, Provenance.addContributor, Contributor.stamp]
    | code index localLine text =>
      simp [addCode, Provenance.stamps, Provenance.addOwned,
        Contributor.map_modify_addOwned (f := Contributor.stamp) fun _ _ _ => rfl]
    | repeated index localLine includer target =>
      simp [addRepeated, Provenance.stamps, Provenance.addPlaceholder]

/-- What is emitted adds its lines. -/
theorem lines_emitAll (emissions : List Emission) :
    (draft.emitAll emissions).lines =
      draft.lines ++ (Emission.lines emissions).map Prod.snd := by
  induction emissions generalizing draft with
  | nil => simp
  | cons emission rest inductionHypothesis =>
    rw [emitAll_cons, inductionHypothesis]
    cases emission <;> simp [openFile, addCode, addRepeated]

variable {draft}

/-- What each operation on a provenance keeps, every draft keeps. -/
theorem emitAll_of_kept {holds : Provenance → Prop} (kept : Provenance.KeptByGrowth holds)
    (held : holds draft.provenance) (emissions : List Emission) :
    holds (draft.emitAll emissions).provenance := by
  induction emissions generalizing draft with
  | nil => exact held
  | cons emission rest inductionHypothesis =>
    rw [emitAll_cons]
    refine inductionHypothesis ?_
    cases emission with
    | opened location file => exact kept.addContributor held _ _
    | code index localLine text => exact kept.addOwned held _ _
    | repeated index localLine includer target => exact kept.addPlaceholder held _ _

end Draft

end LiveShader
