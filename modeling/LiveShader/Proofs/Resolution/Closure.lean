import Mathlib.Data.List.Nodup
import LiveShader.Proofs.Resolution.Course

/-!
# The files of an expansion are closed under inclusion

No file is opened twice (`Unfolds.nodup`). Of a finished expansion, every file is text, no
line is malformed, and every directive leads to a file that was opened (`Unfolds.served`).
-/

namespace LiveShader

namespace Workspace

variable {workspace : Workspace} {limits : ResolutionLimits}

/-- A new place behind distinct ones is distinct from them. -/
theorem nodup_concat {opened : List Location} {place : Location} (nodup : opened.Nodup)
    (fresh : place ∉ opened) : (opened ++ [place]).Nodup :=
  List.nodup_append'.2 ⟨nodup, List.nodup_singleton place, by simpa using fresh⟩

/-- Fewer places stay among the others with the same ones put behind both. -/
theorem append_subset_append {fewer opened : List Location} (subset : fewer ⊆ opened)
    (more : List Location) : fewer ++ more ⊆ opened ++ more :=
  List.append_subset.2 ⟨List.subset_append_of_subset_left _ subset, List.subset_append_right _ _⟩

/-- No file is opened twice. -/
theorem Unfolds.nodup {nesting : Nat} {location : Location} {index : Nat}
    {opened : List Location} {remaining : List (String × Nat)} {emissions : List Emission}
    {halt : Option Halt}
    (unfolds : workspace.Unfolds limits nesting location index opened remaining emissions halt)
    (nodup : opened.Nodup) : (opened ++ Emission.locations emissions).Nodup := by
  induction unfolds with
  | done | malformed | missing | overlong | tooDeep | tooMany => simpa using nodup
  | code isCode later inductionHypothesis => exact inductionHypothesis nodup
  | repeated directive leads known later inductionHypothesis => exact inductionHypothesis nodup
  | expanded directive leads fresh room isText inside later insideHypothesis laterHypothesis =>
    have next := laterHypothesis (by simpa using insideHypothesis (nodup_concat nodup fresh))
    simpa using next
  | unreadable directive leads fresh => exact nodup_concat nodup fresh
  | stopped directive leads fresh room isText inside insideHypothesis =>
    simpa using insideHypothesis (nodup_concat nodup fresh)

/-- A line of a file is well formed, and if it is a directive, then it leads to a known file. -/
structure Served (workspace : Workspace) (known : List Location) (location : Location)
    (text : String) : Prop where
  wellFormed : SourceLine.classify text ≠ .malformed
  leads : ∀ {target}, SourceLine.classify text = .inclusion target →
    ∃ place file, workspace.LeadsTo (location.beside target) place file ∧ place ∈ known

/-- A file is text, and all of its lines are served. -/
def FileServed (workspace : Workspace) (known : List Location) (location : Location) : Prop :=
  ∃ file text, workspace.tree.file? location = some file ∧ file.text? = some text ∧
    ∀ line ∈ Text.lines text, workspace.Served known location line

/-- What serves a line still does where more is known. -/
theorem Served.mono {known more : List Location} {location : Location} {text : String}
    (served : workspace.Served known location text) (subset : known ⊆ more) :
    workspace.Served more location text where
  wellFormed := served.wellFormed
  leads directive :=
    let ⟨place, file, leads, member⟩ := served.leads directive
    ⟨place, file, leads, subset member⟩

/-- What serves a file still does where more is known. -/
theorem FileServed.mono {known more : List Location} {location : Location}
    (served : workspace.FileServed known location) (subset : known ⊆ more) :
    workspace.FileServed more location :=
  let ⟨file, text, present, isText, lines⟩ := served
  ⟨file, text, present, isText, fun line member => (lines line member).mono subset⟩

/-- A file is served once its numbered lines are. -/
theorem fileServed_of_numberedLines {known : List Location} {location : Location} {file : File}
    {text : String} (present : workspace.tree.file? location = some file)
    (isText : file.text? = some text)
    (served : ∀ numbered ∈ numberedLines text, workspace.Served known location numbered.1) :
    workspace.FileServed known location := by
  refine ⟨file, text, present, isText, fun line member => ?_⟩
  obtain ⟨number, here⟩ := exists_atLine?_of_mem member
  exact served (line, number) (mem_zipIdx_one_iff.2 here)

/-- A finished expansion serves the lines that it had to expand and all files that it opens. -/
theorem Unfolds.served {nesting : Nat} {location : Location} {index : Nat}
    {opened : List Location} {remaining : List (String × Nat)} {emissions : List Emission}
    {halt : Option Halt}
    (unfolds : workspace.Unfolds limits nesting location index opened remaining emissions halt)
    (finished : halt = none) :
    (∀ numbered ∈ remaining,
      workspace.Served (opened ++ Emission.locations emissions) location numbered.1) ∧
    ∀ place ∈ Emission.locations emissions,
      workspace.FileServed (opened ++ Emission.locations emissions) place := by
  induction unfolds with
  | done => simp
  | code isCode later inductionHypothesis =>
    obtain ⟨lines, files⟩ := inductionHypothesis finished
    refine ⟨List.forall_mem_cons.2 ⟨⟨by simp [isCode], ?_⟩, lines⟩, files⟩
    intro target directive
    simp [isCode] at directive
  | @repeated _ _ _ _ _ _ _ target place file _ _ directive leads known later
      inductionHypothesis =>
    obtain ⟨lines, files⟩ := inductionHypothesis finished
    refine ⟨List.forall_mem_cons.2 ⟨⟨by simp [directive], ?_⟩, lines⟩, files⟩
    intro other same
    obtain rfl := SourceLine.inclusion.inj (directive.symm.trans same)
    exact ⟨place, file, leads, List.mem_append_left _ known⟩
  | @expanded _ location _ opened _ _ rest target place file source inner emissions _ directive
      leads fresh room isText inside later insideHypothesis laterHypothesis =>
    obtain ⟨aboveLines, aboveFiles⟩ := insideHypothesis rfl
    obtain ⟨belowLines, belowFiles⟩ := laterHypothesis finished
    have known_eq : opened ++ Emission.locations (.opened place file :: inner ++ emissions) =
        opened ++ [place] ++ Emission.locations inner ++ Emission.locations emissions := by
      simp
    have below_eq : opened ++ place :: Emission.locations inner =
        opened ++ [place] ++ Emission.locations inner := by
      simp
    rw [below_eq] at belowLines belowFiles
    rw [known_eq]
    have placeServed := fileServed_of_numberedLines leads.present isText aboveLines
    refine ⟨List.forall_mem_cons.2 ⟨⟨by simp [directive], ?_⟩, belowLines⟩, ?_⟩
    · intro other same
      obtain rfl := SourceLine.inclusion.inj (directive.symm.trans same)
      exact ⟨place, file, leads, by simp⟩
    · intro other member
      simp only [List.cons_append, Emission.locations_opened, Emission.locations_append,
        List.mem_cons, List.mem_append] at member
      rcases member with rfl | here | here
      · exact placeServed.mono (List.subset_append_left _ _)
      · exact (aboveFiles other here).mono (List.subset_append_left _ _)
      · exact belowFiles other here
  | malformed | missing | overlong | tooDeep | tooMany | unreadable | stopped => cases finished

namespace Course

variable {entry : Path} {resolution : Resolution}
  (course : workspace.Course entry limits resolution)

/-- A unit opens no file twice. -/
theorem nodup_opened : course.opened.Nodup :=
  course.unfolds.nodup (List.nodup_singleton course.location)

/-- All files of a unit are served by each other. -/
theorem served {location : Location} (isOpened : location ∈ course.opened) :
    workspace.FileServed course.opened location := by
  obtain ⟨lines, files⟩ := course.unfolds.served rfl
  rcases List.mem_cons.1 isOpened with rfl | below
  · exact fileServed_of_numberedLines course.file?_location course.isText lines
  · exact files location below

end Course

end Workspace

end LiveShader
