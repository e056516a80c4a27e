import LiveShader.Compiler
import LiveShader.Proofs.Diagnostic.Paren
import LiveShader.Proofs.Numbering

/-!
# Compilers that flag lines

`Compiler.Flags` says that a compiler complains about each piece of its source that a
predicate flags. Where each of these pieces is owned by a file, the report on the output
names their lines, in their order, and leaves nothing unresolved.
-/

namespace LiveShader

/-! ## Flagged pieces of a source -/

/-- The numbers of the pieces that are flagged. Pieces count from one. -/
def flaggedNumbers (flagged : String → Bool) (pieces : List String) : List Nat :=
  ((pieces.zipIdx 1).filter fun numbered => flagged numbered.1).map Prod.snd

/-- The flagged numbers are those of the flagged lines. -/
theorem mem_flaggedNumbers_iff {flagged : String → Bool} {pieces : List String} {line : Nat} :
    line ∈ flaggedNumbers flagged pieces ↔
      ∃ piece, atLine? pieces line = some piece ∧ flagged piece = true := by
  simp [flaggedNumbers, mem_zipIdx_one_iff]

/-- Flagged pieces are counted in their order. -/
theorem pairwise_flaggedNumbers (flagged : String → Bool) (pieces : List String) :
    (flaggedNumbers flagged pieces).Pairwise (· < ·) := by
  have sublist : (flaggedNumbers flagged pieces).Sublist ((pieces.zipIdx 1).map Prod.snd) :=
    List.Sublist.map Prod.snd List.filter_sublist
  rw [List.zipIdx_map_snd] at sublist
  exact List.Pairwise.sublist sublist List.pairwise_lt_range'

/-- A last piece that is not flagged does not count. -/
theorem flaggedNumbers_concat {flagged : String → Bool} {last : String}
    (unflagged : flagged last = false) (pieces : List String) :
    flaggedNumbers flagged (pieces ++ [last]) = flaggedNumbers flagged pieces := by
  simp [flaggedNumbers, List.zipIdx_append, unflagged]

/-! ## Compilers that flag lines -/

/-- The compiler cuts its source at every line feed, and answers with one line on each
flagged piece, in their order, or accepts the source if there is none. -/
structure Compiler.Flags {State Compiled Program : Type}
    (compiler : Compiler State Compiled Program) (flagged : String → Bool) : Prop where
  accepts : ∀ state source stage, flaggedNumbers flagged (Text.feeds source) = [] →
    ∃ compiled, (compiler.compile state source stage).1 = .ok compiled
  complains : ∀ state source stage, flaggedNumbers flagged (Text.feeds source) ≠ [] →
    ∃ raw, ∃ message : Nat → String, (compiler.compile state source stage).1 = .error raw ∧
      IsOutput raw ((flaggedNumbers flagged (Text.feeds source)).map fun line =>
        "0(" ++ toString line ++ ") : error: " ++ message line)

/-- Each complaint is a line of output on its line of the source. -/
theorem forall₂_isOn (numbers : List Nat) (message : Nat → String) :
    List.Forall₂ IsOn numbers
      (numbers.map fun line => "0(" ++ toString line ++ ") : error: " ++ message line) := by
  rw [List.forall₂_map_right_iff, List.forall₂_same]
  intro line _
  have shared : ") : error: " = ")" ++ " : error: " := rfl
  exact ⟨" : error: " ++ message line, by simp only [parenLine, shared, String.append_assoc]⟩

/-- A compiler that does nothing but flag lines. -/
def Compiler.flagging (flagged : String → Bool) : Compiler Unit Unit Unit where
  name := "flagging"
  format := .paren
  compile _ source _ :=
    match flaggedNumbers flagged (Text.feeds source) with
    | [] => (.ok (), ())
    | numbers => (.error (Text.unlines (numbers.map fun line =>
        "0(" ++ toString line ++ ") : error: " ++ "flagged")), ())
  link _ _ _ := (.ok (), ())

/-- The compiler that flags lines complains of the flagged lines, and of each of them once. -/
theorem Compiler.flagging_flags (flagged : String → Bool) :
    (Compiler.flagging flagged).Flags flagged where
  accepts _ source _ none := ⟨(), by simp [flagging, none]⟩
  complains _ source _ found := by
    refine ⟨_, fun _ => "flagged", ?_, .inr (Text.feeds_unlines ?_)⟩
    · cases numbers : flaggedNumbers flagged (Text.feeds source) with
      | nil => exact absurd numbers found
      | cons => simp only [flagging, numbers]
    · intro written member
      obtain ⟨line, -, rfl⟩ := List.mem_map.1 member
      have noFeed : '\n' ∉ Nat.toDigits 10 line := fun feed =>
        absurd (Nat.isDigit_of_mem_toDigits (by decide) (by decide) feed) (by decide)
      simp [noFeed]

/-- The file and the line that a diagnostic names. -/
def Diagnostic.position (diagnostic : Diagnostic) : Path × Nat :=
  (diagnostic.sourceFile, diagnostic.localLine)

/-- A position is where a line of a unit comes from. -/
def Provenance.OwnedAt (provenance : Provenance) (line : Nat) (position : Path × Nat) : Prop :=
  ∃ place, provenance.attribution line = .own place ∧
    position = (place.contributor.path, place.localLine)

/-- Complaints about lines of code all find the line they are about. -/
theorem Report.ofOutput_owned {provenance : Provenance} {numbers : List Nat} {raw : String}
    (written : List.Forall₂ IsOn numbers (Text.lines raw))
    (owned : ∀ line ∈ numbers, line ≠ 0 ∧ line < Text.lineBound ∧
      ∃ place, provenance.attribution line = .own place) :
    (Report.ofOutput raw provenance .paren).unresolved = [] ∧
      List.Forall₂ provenance.OwnedAt numbers
        ((Report.ofOutput raw provenance .paren).diagnostics.map Diagnostic.position) := by
  simp only [ofOutput, ofRelocations, spokenLines]
  generalize Text.lines raw = lines at written
  induction written with
  | nil => exact ⟨rfl, .nil⟩
  | @cons line _ _ _ isOn later inductionHypothesis =>
    obtain ⟨⟨positive, small, place, attributed⟩, rest⟩ := List.forall_mem_cons.1 owned
    obtain ⟨unresolved, positions⟩ := inductionHypothesis rest
    obtain ⟨tail, rfl⟩ := isOn
    have relocated := ofLine_parenLine positive small attributed tail
    rw [List.filter_cons_of_pos (by rw [allBlank_parenLine]; rfl), List.map_cons, relocated]
    refine ⟨?_, ?_⟩
    · rw [List.filter_cons_of_neg (by simp [Relocation.placed])]
      exact unresolved
    · rw [List.filterMap_cons_some (by rfl), List.map_cons]
      exact .cons ⟨place, attributed, rfl⟩ positions

end LiveShader
