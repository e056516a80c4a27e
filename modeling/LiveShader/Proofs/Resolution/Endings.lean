import LiveShader.Proofs.FileTree.Endings
import LiveShader.Proofs.Resolution.Flattened

/-!
# Resolutions of files with the same lines

A file is expanded from the lines that are read from it, and line by line an expansion looks up
places, times and more files with the same lines. So no ending shows in a resolution: not in the
unit, not in the numbers of the lines, and neither in a failure.
-/

namespace LiveShader

namespace Workspace

namespace SameLines

variable {first second : Workspace}

/-- The expansion of a line is the same, if the expansions of the files below are. -/
theorem expandLine_eq (same : first.SameLines second)
    {descend descend' : Location → File → Draft → Except Abort Draft}
    (below : ∀ place {file file' : File}, file.SameLines file' →
      ∀ draft, descend' place file' draft = descend place file draft)
    (location : Location) (index : Nat) (draft : Draft) (numbered : String × Nat) :
    second.expandLine descend' location index draft numbered =
      first.expandLine descend location index draft numbered := by
  obtain ⟨text, line⟩ := numbered
  rw [expandLine, expandLine]
  cases SourceLine.classify text with
  | code | malformed => rfl
  | inclusion target =>
    have found := same.regular?_rel ((Location.path location.dropLast).join ⟨target⟩)
    simp only [same.stamp_eq, same.canonicalize_eq]
    generalize first.regular? _ = leads, second.regular? _ = leads' at found ⊢
    cases found with
    | none => rfl
    | @some found found' alike =>
      obtain ⟨place, file⟩ := found
      obtain ⟨place', file'⟩ := found'
      simp only [below _ alike.2]

/-- The expansion of a file is the same. -/
theorem expand_eq (same : first.SameLines second) (limits : ResolutionLimits) (nesting : Nat)
    (location : Location) {file file' : File} (alike : file.SameLines file') (draft : Draft) :
    second.expand limits nesting location file' draft =
      first.expand limits nesting location file draft := by
  induction nesting generalizing location file file' draft with
  | zero => rfl
  | succ nesting inductionHypothesis =>
    have opened_eq : draft.openFile location file' = draft.openFile location file := by
      rw [Draft.openFile, Draft.openFile, alike.modified_eq]
    -- The files below are expanded with less nesting.
    have line_eq : second.expandLine (second.expand limits nesting) location draft.provenance.size =
        first.expandLine (first.expand limits nesting) location draft.provenance.size := by
      funext later numbered
      exact same.expandLine_eq (fun place _ _ below => inductionHypothesis place below) _ _ _ _
    rw [expand_succ, expand_succ, opened_eq, line_eq]
    have read := alike.lines?_eq
    generalize file.text? = text?, file'.text? = text?' at read ⊢
    cases text? with
    | none => rw [Option.map_eq_none_iff.1 read]
    | some text =>
      obtain ⟨text', rfl, lines_eq⟩ := Option.map_eq_some_iff.1 read
      simp only [numberedLines, lines_eq]

/-- An attempt ends the same, and the same is noted on the way. -/
theorem attemptResolve_eq (same : first.SameLines second) (entry : Path)
    (limits : ResolutionLimits) :
    second.attemptResolve entry limits = first.attemptResolve entry limits := by
  rw [attemptResolve, attemptResolve, same.stamp_eq, same.canonicalize_eq]
  have found := same.regular?_rel entry
  generalize first.regular? entry = leads, second.regular? entry = leads' at found ⊢
  cases found with
  | none => rfl
  | @some found found' alike =>
    obtain ⟨location, file⟩ := found
    obtain ⟨location', file'⟩ := found'
    simp only [expandEntry, same.expand_eq limits _ _ alike.2]

end SameLines

/-- Line endings do not matter: files that were written from the same lines are resolved to the
same unit with the same provenance, or fail with the same error and the same stamps. -/
theorem resolve_eq_of_sameLines {first second : Workspace} (same : first.SameLines second)
    (entry : Path) (limits : ResolutionLimits) :
    second.resolve entry limits = first.resolve entry limits := by
  rw [resolve, resolve, same.attemptResolve_eq]

/-- Entangled files in which every line ends in a line feed. -/
def fed : Workspace where
  tree := ⟨[
    (Entangled.top, .file ⟨"x\n#include \"d/low\"\n\n#include \"d/e\"\ny\n".toUTF8, 1⟩),
    (Entangled.folder, .directory),
    (Entangled.low, .file ⟨"\n#include \"../top\"\nz\n".toUTF8, 2⟩),
    (Entangled.void, .file ⟨"".toUTF8, 3⟩)], fun _ => 0⟩
  directory := []

/-- The same lines with other endings, of which some are missing. -/
def mixed : Workspace where
  tree := ⟨[
    (Entangled.top, .file ⟨"x\n#include \"d/low\"\r\n\r\n#include \"d/e\"\r\ny".toUTF8, 1⟩),
    (Entangled.folder, .directory),
    (Entangled.low, .file ⟨"\r\n#include \"../top\"\nz".toUTF8, 2⟩),
    (Entangled.void, .file ⟨"".toUTF8, 3⟩)], fun _ => 0⟩
  directory := []

/-- The two trees have the same lines, ended in different ways. -/
theorem fed_sameLines_mixed : fed.SameLines mixed where
  tree := by
    have alike {text other : String} (time : Nat) (lines_eq : Text.lines other = Text.lines text)
        (unreturned : ∀ line ∈ Text.lines text, line.toList.getLast? ≠ some '\r') :
        Entry.SameLines (.file ⟨text.toUTF8, time⟩) (.file ⟨other.toUTF8, time⟩) :=
      .file (.of_texts rfl (File.text?_of_bytes rfl) (File.text?_of_bytes rfl) lines_eq unreturned)
    exact .cons (alike 1 (by decide +kernel) (by decide +kernel)) <| .cons .directory <|
      .cons (alike 2 (by decide +kernel) (by decide +kernel)) <|
        .cons (alike 3 (by decide +kernel) (by decide +kernel)) (.root _)
  directory_eq := rfl

/-- Whichever way their lines end, the files of the two trees are resolved to one unit. -/
theorem resolve_mixed_eq_resolve_fed :
    mixed.resolve ⟨"top"⟩ .standard = fed.resolve ⟨"top"⟩ .standard ∧
      (fed.resolve ⟨"top"⟩ .standard).toOption.map (·.unit.lines) =
        some ["x", "", "", "z", "", "y"] :=
  ⟨resolve_eq_of_sameLines fed_sameLines_mixed _ _, by decide +kernel⟩

end Workspace

end LiveShader
