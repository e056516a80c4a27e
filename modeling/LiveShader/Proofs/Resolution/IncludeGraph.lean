import Mathlib.Data.Set.Card
import Mathlib.Logic.Relation
import LiveShader.Proofs.Resolution.Unfolding

/-!
# The include graph

Files are joined by their directives. From a file only finitely many others can be
reached, all of them regular files of the tree.
-/

namespace LiveShader

/-- The locations of regular files are listed by the tree. -/
theorem FileTree.mem_files_iff {tree : FileTree} {location : Location} :
    location ∈ tree.files ↔ (tree.file? location).isSome := by
  rw [files, List.mem_filter, and_iff_right_of_imp]
  intro isFile
  unfold file? entryAt? at isFile
  split at isFile
  · rename_i file found
    split at found
    · cases found
    · obtain ⟨first, second, entries_eq, -⟩ := List.lookup_eq_some_iff.1 found
      simp [entries_eq]
  · cases isFile

namespace Workspace

variable (workspace : Workspace)

/-- A well-formed directive of one file leads to another. -/
def Includes (source target : Location) : Prop :=
  ∃ text ∈ workspace.sourceLines source.path, ∃ directive file,
    SourceLine.classify text = .inclusion directive ∧
      workspace.regular? (source.beside directive) = some (target, file)

/-- The files that can be reached from a file over directives. -/
def reachable (start : Location) : Set Location :=
  {place | Relation.ReflTransGen workspace.Includes start place}

/-- A file is text without a malformed directive, and each directive names a regular file. -/
def Sound (place : Location) : Prop :=
  ∃ file text, workspace.tree.file? place = some file ∧ file.text? = some text ∧
    ∀ line ∈ Text.lines text, SourceLine.classify line ≠ .malformed ∧
      ∀ target, SourceLine.classify line = .inclusion target →
        (workspace.regular? (place.beside target)).isSome

/-- No directive of a file has a path that is too long. -/
def HasShortPaths (place : Location) : Prop :=
  ∀ text ∈ workspace.sourceLines place.path, ∀ target,
    SourceLine.classify text = .inclusion target → ¬ workspace.IsOverlong (place.beside target)

variable {workspace}

/-- Only regular files of the tree can be reached from one. -/
theorem reachable_subset_files {start : Location} {file : File}
    (present : workspace.tree.file? start = some file) :
    workspace.reachable start ⊆ {place | place ∈ workspace.tree.files} := by
  intro place reached
  change place ∈ workspace.tree.files
  rw [FileTree.mem_files_iff]
  cases Relation.ReflTransGen.cases_tail reached with
  | inl same => rw [same, present]; rfl
  | inr last =>
    obtain ⟨_, -, _, -, _, _, -, leads⟩ := last
    rw [file?_of_regular? leads]
    rfl

/-- Only finitely many files can be reached from a file. -/
theorem finite_reachable {start : Location} {file : File}
    (present : workspace.tree.file? start = some file) : (workspace.reachable start).Finite :=
  (List.finite_toSet workspace.tree.files).subset (reachable_subset_files present)

/-- No more files can be reached than the tree lists. -/
theorem ncard_reachable_le {start : Location} {file : File}
    (present : workspace.tree.file? start = some file) :
    (workspace.reachable start).ncard ≤ workspace.tree.files.length := by
  classical
  have listed : workspace.reachable start ⊆ workspace.tree.files.toFinset := fun place reached =>
    List.mem_toFinset.2 (reachable_subset_files present reached)
  have bound := Set.ncard_le_ncard listed (Finset.finite_toSet _)
  rw [Set.ncard_coe_finset] at bound
  exact bound.trans (List.toFinset_card_le _)

/-- Reachable files that are listed once are no more than there are. -/
theorem length_le_ncard {start : Location} {places : List Location}
    (finite : (workspace.reachable start).Finite) (nodup : places.Nodup)
    (reached : ∀ place ∈ places, place ∈ workspace.reachable start) :
    places.length ≤ (workspace.reachable start).ncard := by
  classical
  rw [← List.toFinset_card_of_nodup nodup, ← Set.ncard_coe_finset]
  exact Set.ncard_le_ncard (fun place member => reached place (List.mem_toFinset.1 member)) finite

/-! ## The lines of a file -/

variable {location : Location}

/-- The numbered lines of a file are among its source lines. -/
theorem numberedLines_subset {file : File} {text : String}
    (present : workspace.tree.file? location = some file) (isText : file.text? = some text) :
    ∀ numbered ∈ numberedLines text, numbered.1 ∈ workspace.sourceLines location.path := by
  intro numbered member
  rw [sourceLines_path present isText]
  exact mem_of_atLine? (mem_zipIdx_one_iff.1 member)

/-- A directive that leads to a file joins the two. -/
theorem LeadsTo.includes {place : Location} {text target : String} {file : File}
    (leads : workspace.LeadsTo (location.beside target) place file)
    (member : text ∈ workspace.sourceLines location.path)
    (directive : SourceLine.classify text = .inclusion target) :
    workspace.Includes location place :=
  ⟨text, member, target, file, directive, leads.regular⟩

/-- A directive of a reachable file leads to a reachable file. -/
theorem mem_reachable_of_directive {start place : Location} {text target : String} {file : File}
    (reached : location ∈ workspace.reachable start)
    (member : text ∈ workspace.sourceLines location.path)
    (directive : SourceLine.classify text = .inclusion target)
    (leads : workspace.LeadsTo (location.beside target) place file) :
    place ∈ workspace.reachable start :=
  Relation.ReflTransGen.tail reached (leads.includes member directive)

/-- A line of a sound file is well-formed, and a directive on it names a regular file. -/
theorem Sound.of_mem_sourceLines {text : String} (sound : workspace.Sound location)
    (member : text ∈ workspace.sourceLines location.path) :
    SourceLine.classify text ≠ .malformed ∧ ∀ target,
      SourceLine.classify text = .inclusion target →
        (workspace.regular? (location.beside target)).isSome := by
  obtain ⟨file, source, present, isText, lines⟩ := sound
  rw [sourceLines_path present isText] at member
  exact lines text member

/-- A sound file is a text. -/
theorem Sound.text?_ne_none {file : File} (sound : workspace.Sound location)
    (present : workspace.tree.file? location = some file) : file.text? ≠ none := by
  obtain ⟨other, text, otherPresent, isText, -⟩ := sound
  obtain rfl := Option.some.inj (present.symm.trans otherPresent)
  simp [isText]

/-- Where no path of a place is too long, a sound file has no directive whose path is. -/
theorem Sound.hasShortPaths
    (short : ∀ place entry, workspace.tree.entryAt? place = some entry →
      place.path.text.utf8ByteSize < FileTree.pathLimit)
    (sound : workspace.Sound location) : workspace.HasShortPaths location := by
  intro text member target directive
  have named := (sound.of_mem_sourceLines member).2 target directive
  obtain ⟨⟨place, file⟩, leads⟩ := Option.isSome_iff_exists.1 named
  exact (leadsTo_of_short short leads).not_isOverlong

end Workspace

end LiveShader
