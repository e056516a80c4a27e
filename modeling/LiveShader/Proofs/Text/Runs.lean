/-!
# Runs of characters

A text starts with a run of a class of characters, which ends where the text leaves the
class. No other run will do (`runs_iff`), so a text that is read run by run divides in one
way only.
-/

namespace LiveShader.Text

/-- A text starts with a run of a class: the run is in the class, and the rest does not go
on with it. -/
structure Runs (accepts : Char → Bool) (text run rest : List Char) : Prop where
  text_eq : text = run ++ rest
  accepted : ∀ character ∈ run, accepts character = true
  ended : ∀ character ∈ rest.head?, accepts character = false

variable {accepts : Char → Bool} {text run rest : List Char}

/-- The accepted characters in front are a longest run. -/
theorem runs_takeWhile (accepts : Char → Bool) (text : List Char) :
    Runs accepts text (text.takeWhile accepts) (text.dropWhile accepts) where
  text_eq := List.takeWhile_append_dropWhile.symm
  accepted := List.all_eq_true.1 List.all_takeWhile
  ended character isHead := by
    have stays := List.head?_dropWhile_not accepts text
    rw [Option.mem_def.1 isHead] at stays
    exact stays

/-- The longest run is the only one. -/
theorem runs_iff : Runs accepts text run rest ↔
    run = text.takeWhile accepts ∧ rest = text.dropWhile accepts := by
  constructor
  · rintro ⟨rfl, accepted, ended⟩
    rw [List.takeWhile_append_of_pos accepted, List.dropWhile_append_of_pos accepted]
    cases rest with
    | nil => simp
    | cons head tail =>
      have stays : ¬ accepts head = true := by simp [ended head rfl]
      rw [List.takeWhile_cons_of_neg stays, List.dropWhile_cons_of_neg stays, List.append_nil]
      exact ⟨rfl, rfl⟩
  · rintro ⟨rfl, rfl⟩
    exact runs_takeWhile accepts text

/-- There is one longest run only. -/
theorem Runs.unique {otherRun otherRest : List Char} (runs : Runs accepts text run rest)
    (others : Runs accepts text otherRun otherRest) : run = otherRun ∧ rest = otherRest := by
  obtain ⟨rfl, rfl⟩ := runs_iff.1 runs
  obtain ⟨rfl, rfl⟩ := runs_iff.1 others
  exact ⟨rfl, rfl⟩

end LiveShader.Text
