/-!
# Cutting text at a separator

`split` is the one way this library cuts text into pieces, both a path at its
slashes and a source at its line feeds. It keeps every piece, empty ones
included, so that `join_split` gives the text back.
-/

namespace LiveShader.Text

/-- The pieces between the separators. There is always one piece more than there
are separators. -/
def split (separator : Char) : List Char → List (List Char)
  | [] => [[]]
  | head :: tail =>
    if head = separator then
      [] :: split separator tail
    else
      match split separator tail with
      | [] => [[head]]
      | piece :: pieces => (head :: piece) :: pieces

/-- Pieces put together with one separator between neighbours. -/
def join (separator : Char) : List (List Char) → List Char
  | [] => []
  | [piece] => piece
  | piece :: next :: pieces => piece ++ separator :: join separator (next :: pieces)

/-- A text cut at a separator has at least one piece. -/
theorem split_ne_nil (separator : Char) (text : List Char) : split separator text ≠ [] := by
  cases text with
  | nil => simp [split]
  | cons head tail =>
    simp only [split]
    split
    · simp
    · split <;> simp

/-- Cutting loses nothing. -/
theorem join_split (separator : Char) (text : List Char) :
    join separator (split separator text) = text := by
  induction text with
  | nil => rfl
  | cons head tail inductionHypothesis =>
    have nonempty := split_ne_nil separator tail
    simp only [split]
    by_cases isSeparator : head = separator
    · subst isSeparator
      rw [if_pos rfl]
      cases pieces : split head tail with
      | nil => exact absurd pieces nonempty
      | cons piece rest => simp [join, ← pieces, inductionHypothesis]
    · rw [if_neg isSeparator]
      cases pieces : split separator tail with
      | nil => exact absurd pieces nonempty
      | cons piece rest =>
        rw [pieces] at inductionHypothesis
        cases rest with
        | nil => simpa [join] using inductionHypothesis
        | cons next rest => simpa [join] using inductionHypothesis

/-- No piece holds the separator. -/
theorem not_mem_of_mem_split {separator : Char} {text piece : List Char}
    (member : piece ∈ split separator text) : separator ∉ piece := by
  induction text generalizing piece with
  | nil =>
    simp only [split, List.mem_singleton] at member
    simp [member]
  | cons head tail inductionHypothesis =>
    simp only [split] at member
    by_cases isSeparator : head = separator
    · rw [if_pos isSeparator] at member
      rcases List.mem_cons.1 member with rfl | later
      · simp
      · exact inductionHypothesis later
    · rw [if_neg isSeparator] at member
      cases pieces : split separator tail with
      | nil => exact absurd pieces (split_ne_nil separator tail)
      | cons first rest =>
        rw [pieces] at member
        rcases List.mem_cons.1 member with rfl | later
        · have absent := inductionHypothesis (by rw [pieces]; exact List.mem_cons_self)
          simp [absent, Ne.symm isSeparator]
        · exact inductionHypothesis (by rw [pieces]; exact List.mem_cons_of_mem _ later)

/-- A list without the longest run at its end of which `drops` accepts every member. -/
def dropEndWhile {α : Type} (drops : α → Bool) (items : List α) : List α :=
  (items.reverse.dropWhile drops).reverse

end LiveShader.Text
