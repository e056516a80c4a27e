import LiveShader.Proofs.Resolution.Unfolding

/-!
# The tour of the include graph

The tour of a file goes depth first: the file itself, then the tours of the files that its
directives lead to, line by line, without the files that were seen before. Nothing but the
graph decides it: it passes over malformed lines, over directives that lead nowhere and over
files that are no text, and it knows no limits. A finished expansion opens the files of a tour
(`Unfolds.tours`).
-/

namespace LiveShader

namespace Workspace

variable (workspace : Workspace)

/-- The file that a line of a file leads to. -/
def target? (location : Location) (text : String) : Option Location :=
  match SourceLine.classify text with
  | .inclusion target => (workspace.regular? (location.beside target)).map Prod.fst
  | .code | .malformed => none

/-- The files that a file leads to, in the order of its lines. -/
def targets (location : Location) : List Location :=
  (workspace.sourceLines location.path).filterMap (workspace.target? location)

/-- The tour of files, one after the other, where others were seen before. -/
inductive Tours : List Location → List Location → List Location → Prop where
  | done {seen} : Tours seen [] []
  | known {seen place rest tour} (known : place ∈ seen) (later : Tours seen rest tour) :
      Tours seen (place :: rest) tour
  | fresh {seen place rest inner tour} (fresh : place ∉ seen)
      (inside : Tours (seen ++ [place]) (workspace.targets place) inner)
      (later : Tours (seen ++ place :: inner) rest tour) :
      Tours seen (place :: rest) (place :: inner ++ tour)

variable {workspace} {location : Location}

/-- A line of code leads nowhere. -/
theorem target?_code {text : String} (isCode : SourceLine.classify text = .code) :
    workspace.target? location text = none := by
  simp only [target?, isCode]

/-- A directive leads to the regular file that its path names. -/
theorem target?_inclusion {text target : String}
    (directive : SourceLine.classify text = .inclusion target) :
    workspace.target? location text =
      (workspace.regular? (location.beside target)).map Prod.fst := by
  simp only [target?, directive]

/-- The files that a text leads to, in the order of its numbered lines. -/
theorem targets_eq {file : File} {text : String}
    (present : workspace.tree.file? location = some file) (isText : file.text? = some text) :
    workspace.targets location =
      (numberedLines text).filterMap fun numbered => workspace.target? location numbered.1 := by
  have lines : (numberedLines text).map Prod.fst = workspace.sourceLines location.path := by
    rw [numberedLines, List.zipIdx_map_fst, sourceLines_path present isText]
  rw [targets, ← lines, List.filterMap_map]
  rfl

namespace Tours

variable {seen places tour : List Location}

/-- There is one tour of files only. -/
theorem unique {other : List Location} (tours : workspace.Tours seen places tour)
    (others : workspace.Tours seen places other) : tour = other := by
  induction tours generalizing other with
  | done =>
    cases others
    rfl
  | known known later inductionHypothesis =>
    cases others with
    | known _ otherLater => exact inductionHypothesis otherLater
    | fresh fresh => exact absurd known fresh
  | fresh fresh inside later insideHypothesis laterHypothesis =>
    cases others with
    | known known => exact absurd known fresh
    | fresh _ otherInside otherLater =>
      obtain rfl := insideHypothesis otherInside
      rw [laterHypothesis otherLater]

/-- A tour goes on with more files. -/
theorem append {more moreTour : List Location} (tours : workspace.Tours seen places tour)
    (others : workspace.Tours (seen ++ tour) more moreTour) :
    workspace.Tours seen (places ++ more) (tour ++ moreTour) := by
  induction tours with
  | done => simpa using others
  | known known later inductionHypothesis => exact .known known (inductionHypothesis others)
  | fresh fresh inside later insideHypothesis laterHypothesis =>
    rw [List.append_assoc]
    exact .fresh fresh inside (laterHypothesis (by simpa using others))

/-- The tour of a file that was not seen. -/
theorem singleton {place : Location} (fresh : place ∉ seen)
    (inside : workspace.Tours (seen ++ [place]) (workspace.targets place) tour) :
    workspace.Tours seen [place] (place :: tour) := by
  have tours := Tours.fresh fresh inside .done
  rwa [List.append_nil] at tours

end Tours

/-- A finished expansion opens the files of a tour. -/
theorem Unfolds.tours {limits : ResolutionLimits} {nesting index : Nat} {opened : List Location}
    {remaining : List (String × Nat)} {emissions : List Emission} {halt : Option Halt}
    (unfolds : workspace.Unfolds limits nesting location index opened remaining emissions halt)
    (finished : halt = none) :
    workspace.Tours opened (remaining.filterMap fun numbered =>
      workspace.target? location numbered.1) (Emission.locations emissions) := by
  induction unfolds with
  | done => exact .done
  | code isCode later inductionHypothesis =>
    rw [List.filterMap_cons, target?_code isCode]
    exact inductionHypothesis finished
  | repeated directive leads known later inductionHypothesis =>
    rw [List.filterMap_cons, target?_inclusion directive, leads.regular]
    exact .known known (inductionHypothesis finished)
  | expanded directive leads fresh room isText inside later insideHypothesis laterHypothesis =>
    -- A file is left only when it is finished, so its tour is a whole one.
    have insideTours := insideHypothesis rfl
    rw [← targets_eq leads.present isText] at insideTours
    rw [List.filterMap_cons, target?_inclusion directive, leads.regular]
    simpa using Tours.fresh fresh insideTours (laterHypothesis finished)
  | malformed | missing | overlong | tooDeep | tooMany | unreadable | stopped => cases finished

end Workspace

end LiveShader
