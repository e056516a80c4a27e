import LiveShader.Text.Lines

/-!
# Cutting and joining are inverse

`split_join` is the other half of `join_split`: pieces without the separator come back
from the text that joins them. So a text that was written line by line has those lines,
whether it is read by `lines` or, with one empty piece at its end, by `feeds`.
-/

namespace LiveShader.Text

variable {separator : Char}

/-- A text without the separator is one piece. -/
theorem split_eq_singleton {text : List Char} (absent : separator ∉ text) :
    split separator text = [text] := by
  induction text with
  | nil => rfl
  | cons head tail inductionHypothesis =>
    simp only [List.mem_cons, not_or] at absent
    simp [split, Ne.symm absent.1, inductionHypothesis absent.2]

/-- The first separator ends the first piece. -/
theorem split_append_cons {piece : List Char} (rest : List Char) (absent : separator ∉ piece) :
    split separator (piece ++ separator :: rest) = piece :: split separator rest := by
  induction piece with
  | nil => simp [split]
  | cons head tail inductionHypothesis =>
    simp only [List.mem_cons, not_or] at absent
    simp [split, Ne.symm absent.1, inductionHypothesis absent.2]

/-- What is in front of a separator is cut by itself, and so is what is behind. -/
theorem split_append_separator (front back : List Char) :
    split separator (front ++ separator :: back) =
      split separator front ++ split separator back := by
  induction front with
  | nil => simp [split]
  | cons head tail inductionHypothesis =>
    by_cases isSeparator : head = separator
    · simp [split, isSeparator, inductionHypothesis]
    · obtain ⟨piece, pieces, cut⟩ := List.exists_cons_of_ne_nil (split_ne_nil separator tail)
      simp [split, isSeparator, inductionHypothesis, cut]

/-- Cutting leaves all characters in the pieces but the separators. -/
theorem mem_join_iff {character : Char} (other : character ≠ separator)
    {pieces : List (List Char)} :
    character ∈ join separator pieces ↔ ∃ piece ∈ pieces, character ∈ piece := by
  induction pieces with
  | nil => simp [join]
  | cons piece rest inductionHypothesis =>
    cases rest with
    | nil => simp [join]
    | cons next rest =>
      rw [join, List.mem_append, List.mem_cons, or_iff_right other, inductionHypothesis]
      simp

/-- The longest run at the end of a list of which `drops` accepts every member. -/
def takeEndWhile {Item : Type} (drops : Item → Bool) (items : List Item) : List Item :=
  (items.reverse.takeWhile drops).reverse

/-- The items that are dropped at the end and those that stay are all there are. -/
theorem dropEndWhile_append_takeEndWhile {Item : Type} (drops : Item → Bool) (items : List Item) :
    dropEndWhile drops items ++ takeEndWhile drops items = items := by
  rw [dropEndWhile, takeEndWhile, ← List.reverse_append, List.takeWhile_append_dropWhile,
    List.reverse_reverse]

/-- What is dropped at the end is what was to be dropped. -/
theorem drops_of_mem_takeEndWhile {Item : Type} {drops : Item → Bool} {items : List Item}
    {item : Item} (member : item ∈ takeEndWhile drops items) : drops item = true :=
  List.all_eq_true.1 List.all_takeWhile item (List.mem_reverse.1 member)

/-- What is left ends in an item that is to stay. -/
theorem stays_of_dropEndWhile {Item : Type} {drops : Item → Bool} {items front : List Item}
    {last : Item} (left : dropEndWhile drops items = front ++ [last]) : drops last = false := by
  have reversed : items.reverse.dropWhile drops = last :: front.reverse := by
    rw [← List.reverse_inj, ← dropEndWhile, left]
    simp
  have stays := List.head_dropWhile_not drops (l := items.reverse) (by simp [reversed])
  simpa [reversed] using stays

/-- What is dropped stands behind an item that is to stay. -/
theorem dropEndWhile_append_cons {Item : Type} {drops : Item → Bool} {last : Item}
    {dropped : List Item} (stays : drops last = false) (goes : ∀ item ∈ dropped, drops item = true)
    (front : List Item) : dropEndWhile drops (front ++ last :: dropped) = front ++ [last] := by
  have run : (front ++ last :: dropped).reverse = dropped.reverse ++ last :: front.reverse := by
    simp
  have gone : ∀ item ∈ dropped.reverse, drops item = true := fun item member =>
    goes item (List.mem_reverse.1 member)
  rw [dropEndWhile, run, List.dropWhile_append_of_pos gone,
    List.dropWhile_cons_of_neg (by simp [stays])]
  simp

/-- Joining loses nothing either, if no piece holds the separator. -/
theorem split_join {pieces : List (List Char)} (nonempty : pieces ≠ [])
    (absent : ∀ piece ∈ pieces, separator ∉ piece) :
    split separator (join separator pieces) = pieces := by
  induction pieces with
  | nil => exact absurd rfl nonempty
  | cons piece rest inductionHypothesis =>
    have absentHere := absent piece List.mem_cons_self
    cases rest with
    | nil => exact split_eq_singleton absentHere
    | cons next later =>
      rw [join, split_append_cons _ absentHere,
        inductionHypothesis (by simp) fun other member =>
          absent other (List.mem_cons_of_mem _ member)]

/-- The characters of a text that is written line by line. -/
theorem toList_unlines (lines : List String) :
    (unlines lines).toList = lines.flatMap fun line => line.toList ++ ['\n'] := by
  simp [unlines, List.flatMap_map]

@[simp] theorem unlines_cons (line : String) (lines : List String) :
    (unlines (line :: lines)).toList = line.toList ++ '\n' :: (unlines lines).toList := by
  simp [toList_unlines]

/-- No line holds a line feed. -/
def AreLines (lines : List String) : Prop :=
  ∀ line ∈ lines, '\n' ∉ line.toList

/-- A reader of line feeds sees the lines that were written, and one empty piece. -/
theorem split_unlines {lines : List String} (areLines : AreLines lines) :
    split '\n' (unlines lines).toList = lines.map String.toList ++ [[]] := by
  induction lines with
  | nil => rfl
  | cons line rest inductionHypothesis =>
    have here := areLines line List.mem_cons_self
    have later : AreLines rest := fun other member => areLines other (List.mem_cons_of_mem _ member)
    rw [unlines_cons, split_append_cons _ here, inductionHypothesis later]
    rfl

/-- Lines that are written out are fed back, with an empty one behind the last feed. -/
theorem feeds_unlines {lines : List String} (areLines : AreLines lines) :
    feeds (unlines lines) = lines ++ [""] := by
  simp [feeds, split_unlines areLines, Function.comp_def]

/-- Only a return is dropped at the end of a line. -/
theorem dropReturn_concat (front : List Char) (last : Char) :
    dropReturn (front ++ [last]) = if last = '\r' then front else front ++ [last] := by
  simp [dropReturn]

/-- A line that does not end in a return is left as it is. -/
theorem dropReturn_eq_self {line : List Char} (unreturned : line.getLast? ≠ some '\r') :
    dropReturn line = line :=
  if_neg unreturned

/-- Pieces before others are terminated lines. -/
theorem linesOfPieces_append {later : List (List Char)} (nonempty : later ≠ [])
    (pieces : List (List Char)) :
    linesOfPieces (pieces ++ later) = pieces.map dropReturn ++ linesOfPieces later := by
  induction pieces with
  | nil => rfl
  | cons piece rest inductionHypothesis =>
    obtain ⟨next, others, behind⟩ := List.exists_cons_of_ne_nil
      (List.append_ne_nil_of_right_ne_nil rest nonempty)
    rw [List.cons_append, behind, linesOfPieces, ← behind, inductionHypothesis]
    rfl

/-- Pieces before a last empty one are terminated lines. -/
theorem linesOfPieces_append_nil (pieces : List (List Char)) :
    linesOfPieces (pieces ++ [[]]) = pieces.map dropReturn := by
  rw [linesOfPieces_append (List.cons_ne_nil _ _), linesOfPieces, if_pos rfl, List.append_nil]

/-- The lines that were written are read back, but for a carriage return at their end. -/
theorem lines_unlines {lines : List String} (areLines : AreLines lines) :
    Text.lines (unlines lines) =
      lines.map fun line => String.ofList (dropReturn line.toList) := by
  simp [Text.lines, split_unlines areLines, linesOfPieces_append_nil, Function.comp_def]

/-- Behind a line feed, the lines of a text are read as if nothing stood before it. -/
theorem lines_append {front : String} (ends : front = "" ∨ front.toList.getLast? = some '\n')
    (back : String) : Text.lines (front ++ back) = Text.lines front ++ Text.lines back := by
  rcases ends with rfl | feed
  · simp [Text.lines, split, linesOfPieces]
  · obtain ⟨body, front_eq⟩ := List.getLast?_eq_some_iff.1 feed
    have whole : (front ++ back).toList = body ++ '\n' :: back.toList := by simp [front_eq]
    rw [Text.lines, Text.lines, Text.lines, whole, front_eq, split_append_separator,
      split_append_separator, linesOfPieces_append (split_ne_nil _ _),
      linesOfPieces_append (split_ne_nil _ _), ← List.map_append]
    simp [split, linesOfPieces]

/-! ## Lines that are read -/

/-- What `dropReturn` keeps was there before. -/
theorem mem_of_mem_dropReturn {line : List Char} {character : Char}
    (member : character ∈ dropReturn line) : character ∈ line := by
  unfold dropReturn at member
  split at member
  · exact (List.dropLast_sublist line).subset member
  · exact member

/-- A line comes from a piece between line feeds. -/
theorem exists_piece_of_mem_linesOfPieces {pieces : List (List Char)} {line : List Char}
    (member : line ∈ linesOfPieces pieces) :
    ∃ piece ∈ pieces, ∀ character ∈ line, character ∈ piece := by
  induction pieces with
  | nil => simp [linesOfPieces] at member
  | cons piece rest inductionHypothesis =>
    cases rest with
    | nil =>
      simp only [linesOfPieces] at member
      split at member
      · simp at member
      · rw [List.mem_singleton] at member
        exact ⟨piece, List.mem_cons_self, fun character here => member ▸ here⟩
    | cons next later =>
      rcases List.mem_cons.1 member with rfl | member
      · exact ⟨piece, List.mem_cons_self, fun character => mem_of_mem_dropReturn⟩
      · obtain ⟨source, sourceMember, kept⟩ := inductionHypothesis member
        exact ⟨source, List.mem_cons_of_mem _ sourceMember, kept⟩

/-- The lines of a text hold no line feed. -/
theorem areLines_lines (text : String) : AreLines (Text.lines text) := by
  intro line member feed
  obtain ⟨characters, charactersMember, rfl⟩ := List.mem_map.1 member
  rw [String.toList_ofList] at feed
  obtain ⟨piece, pieceMember, kept⟩ := exists_piece_of_mem_linesOfPieces charactersMember
  exact not_mem_of_mem_split pieceMember (kept _ feed)

end LiveShader.Text
