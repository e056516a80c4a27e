import Mathlib.Data.List.Forall2
import Mathlib.Data.List.Induction
import LiveShader.Diagnostic.Report
import LiveShader.Proofs.Diagnostic.Grammar
import LiveShader.Proofs.Text.Lines

/-!
# Diagnostics with the line in parentheses

What a compiler writes as `0(line)rest` is parsed back, and it stays such a line when it
is read out of an output of several lines.
-/

namespace LiveShader

/-! ## Lines of output -/

/-- A line of compiler output on a line of its source. -/
def parenLine (line : Nat) (rest : String) : String :=
  "0(" ++ toString line ++ ")" ++ rest

/-- A complaint is written as a zero, its number in parentheses, and what it says. -/
theorem toList_parenLine (line : Nat) (rest : String) :
    (parenLine line rest).toList =
      '0' :: '(' :: (Nat.toDigits 10 line ++ ')' :: rest.toList) := by
  simp [parenLine]

/-- What was written in parentheses is parsed back. -/
theorem parse?_parenLine {line : Nat} (small : line < Text.lineBound) (rest : String) :
    DiagnosticFormat.paren.parse? (parenLine line rest) = some ⟨"", line, rest⟩ := by
  have divides : ParenParts.Divides ⟨[], ['0'], Nat.toDigits 10 line, line, rest.toList⟩
      (parenLine line rest) :=
    ⟨toList_parenLine line rest, List.forall_mem_nil _, List.forall_mem_singleton.2 (by decide),
      Text.writesLine_toDigits small⟩
  rw [divides.parse?_eq, ParenParts.complaint, String.ofList_toList]

/-- A line on a line of a source says something. -/
theorem allBlank_parenLine (line : Nat) (rest : String) :
    Text.allBlank (parenLine line rest) = false := by
  have notBlank : Text.isBlank '0' = false := by decide
  simp [Text.allBlank, toList_parenLine, notBlank]

/-- A complaint about a line of code becomes a diagnostic there. -/
theorem ofLine_parenLine {provenance : Provenance} {line : Nat} {place : Place}
    (positive : line ≠ 0) (small : line < Text.lineBound)
    (owned : provenance.attribution line = .own place) (rest : String) :
    Relocation.ofLine provenance .paren (parenLine line rest) =
      Relocation.placed ⟨"", line, rest⟩ place := by
  simp [Relocation.ofLine, parse?_parenLine small, positive, owned]

/-! ## Output of several lines -/

/-- Output that is these lines: they are what stands between its line feeds. Whether the
last line is ended by one as well is left open. -/
def IsOutput (raw : String) (lines : List String) : Prop :=
  Text.feeds raw = lines ∨ Text.feeds raw = lines ++ [""]

/-- A line of output on this line of a source. -/
def IsOn (line : Nat) (written : String) : Prop :=
  ∃ rest, written = parenLine line rest

/-- A carriage return at the end belongs to what is behind the parenthesis. -/
theorem dropReturn_append_cons (front rest : List Char) :
    Text.dropReturn (front ++ ')' :: rest) = front ++ ')' :: Text.dropReturn rest := by
  cases rest using List.reverseRecOn with
  | nil =>
    rw [Text.dropReturn_concat, if_neg (by decide)]
    rfl
  | append_singleton rest last =>
    have grouped : front ++ ')' :: (rest ++ [last]) = (front ++ ')' :: rest) ++ [last] := by simp
    rw [grouped, Text.dropReturn_concat, Text.dropReturn_concat]
    split
    · rfl
    · exact grouped.symm

/-- A line keeps its number where the return at its end is dropped. -/
theorem isOn_dropReturn {line : Nat} {written : List Char}
    (isOn : IsOn line (String.ofList written)) :
    IsOn line (String.ofList (Text.dropReturn written)) := by
  obtain ⟨rest, same⟩ := isOn
  refine ⟨String.ofList (Text.dropReturn rest.toList), String.toList_injective ?_⟩
  have written_eq := congrArg String.toList same
  rw [String.toList_ofList, toList_parenLine] at written_eq
  have split : '0' :: '(' :: (Nat.toDigits 10 line ++ ')' :: rest.toList) =
      ('0' :: '(' :: Nat.toDigits 10 line) ++ ')' :: rest.toList := rfl
  rw [String.toList_ofList, toList_parenLine, written_eq, split, dropReturn_append_cons,
    String.toList_ofList]
  rfl

/-- Lines on lines of a source are read as lines on them. -/
theorem forall₂_linesOfPieces {numbers : List Nat} {pieces : List (List Char)}
    (written : List.Forall₂ (fun line piece => IsOn line (String.ofList piece)) numbers pieces) :
    List.Forall₂ (fun line piece => IsOn line (String.ofList piece)) numbers
      (Text.linesOfPieces pieces) := by
  induction written with
  | nil => exact .nil
  | @cons line piece _ rest isOn later inductionHypothesis =>
    cases later with
    | nil =>
      have nonempty : piece ≠ [] := by
        rintro rfl
        obtain ⟨tail, same⟩ := isOn
        simpa [toList_parenLine] using congrArg String.toList same
      rw [Text.linesOfPieces, if_neg nonempty]
      exact .cons isOn .nil
    | cons next afterwards => exact .cons (isOn_dropReturn isOn) inductionHypothesis

/-- Output on lines of a source is read line by line. -/
theorem forall₂_lines {numbers : List Nat} {raw : String} {lines : List String}
    (isOutput : IsOutput raw lines) (written : List.Forall₂ IsOn numbers lines) :
    List.Forall₂ IsOn numbers (Text.lines raw) := by
  rw [Text.lines, List.forall₂_map_right_iff]
  rcases isOutput with pieces_eq | pieces_eq
  · rw [← pieces_eq, Text.feeds, List.forall₂_map_right_iff] at written
    exact forall₂_linesOfPieces written
  · have cut : Text.split '\n' raw.toList = lines.map String.toList ++ [[]] := by
      have mapped := congrArg (List.map String.toList) pieces_eq
      simpa [Text.feeds, Function.comp_def] using mapped
    rw [cut, Text.linesOfPieces_append_nil, List.forall₂_map_right_iff, List.forall₂_map_right_iff]
    refine written.imp fun line text isOn => isOn_dropReturn ?_
    rw [String.ofList_toList]
    exact isOn

end LiveShader
