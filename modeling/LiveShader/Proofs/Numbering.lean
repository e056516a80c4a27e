import LiveShader.Resolution.Basic

/-!
# Counting from one

Lines of units and of files count from one, and zero is no line. `atLine?` looks an item
up by such a number.
-/

namespace LiveShader

/-- An item by its number. Numbers count from one. -/
def atLine? {α : Type} (items : List α) (line : Nat) : Option α :=
  if line = 0 then none else items[line - 1]?

variable {α β : Type} {items : List α} {line : Nat}

@[simp] theorem atLine?_zero : atLine? items 0 = none := rfl

@[simp] theorem atLine?_succ : atLine? items (line + 1) = items[line]? := rfl

/-- Nothing is at line zero, and nothing behind the last line. -/
theorem atLine?_eq_none_iff : atLine? items line = none ↔ line = 0 ∨ items.length < line := by
  cases line with
  | zero => simp
  | succ index => simp only [atLine?_succ, List.getElem?_eq_none_iff]; omega

/-- Something is at a line exactly if it is a number of a line. -/
theorem atLine?_isSome_iff : (atLine? items line).isSome ↔ 1 ≤ line ∧ line ≤ items.length := by
  rw [← Option.ne_none_iff_isSome, ne_eq, atLine?_eq_none_iff]
  omega

/-- One more item is at the line behind the last. -/
theorem atLine?_append_singleton (item : α) :
    atLine? (items ++ [item]) line =
      if line = items.length + 1 then some item else atLine? items line := by
  cases line with
  | zero => rfl
  | succ index =>
    simp only [atLine?_succ, List.getElem?_append, Nat.add_right_cancel_iff]
    split
    · rw [if_neg (by omega)]
    · by_cases isLast : index = items.length
      · simp [isLast]
      · rw [if_neg isLast, List.getElem?_eq_none (by simp; omega),
          List.getElem?_eq_none (by omega)]

/-- What is at a line of mapped items is what is there, mapped. -/
theorem atLine?_map (f : α → β) : atLine? (items.map f) line = (atLine? items line).map f := by
  cases line <;> simp

/-- What is at a line is among the items. -/
theorem mem_of_atLine? {item : α} (here : atLine? items line = some item) : item ∈ items := by
  cases line with
  | zero => simp at here
  | succ index => exact List.mem_of_getElem? here

/-- Each item is at a line. -/
theorem exists_atLine?_of_mem {item : α} (member : item ∈ items) :
    ∃ line, atLine? items line = some item := by
  obtain ⟨index, here⟩ := List.mem_iff_getElem?.1 member
  exact ⟨index + 1, here⟩

/-- Items stand in their order at increasing numbers. -/
theorem rel_of_atLine? {relation : α → α → Prop} (ordered : items.Pairwise relation)
    {first second : Nat} {earlier later : α} (atFirst : atLine? items first = some earlier)
    (atSecond : atLine? items second = some later) (before : first < second) :
    relation earlier later := by
  cases first with
  | zero => simp at atFirst
  | succ first =>
    cases second with
    | zero => simp at atSecond
    | succ second =>
      rw [atLine?_succ] at atFirst atSecond
      obtain ⟨insideFirst, rfl⟩ := List.getElem?_eq_some_iff.1 atFirst
      obtain ⟨insideSecond, rfl⟩ := List.getElem?_eq_some_iff.1 atSecond
      exact List.pairwise_iff_getElem.1 ordered first second insideFirst insideSecond (by omega)

/-- A number and its item, as `zipIdx` pairs them. -/
theorem mem_zipIdx_one_iff {item : α} :
    (item, line) ∈ items.zipIdx 1 ↔ atLine? items line = some item := by
  cases line with
  | zero => simp [List.mk_mem_zipIdx_iff_le_and_getElem?_sub]
  | succ index => simp [List.mk_mem_zipIdx_iff_le_and_getElem?_sub]

/-- Without repetition an item has one number. -/
theorem atLine?_inj {first second : Nat} {item : α} (nodup : items.Nodup)
    (atFirst : atLine? items first = some item) (atSecond : atLine? items second = some item) :
    first = second := by
  cases first with
  | zero => simp at atFirst
  | succ first =>
    cases second with
    | zero => simp at atSecond
    | succ second =>
      rw [atLine?_succ] at atFirst atSecond
      have inside : first < items.length := (List.getElem?_eq_some_iff.1 atFirst).1
      have same := (List.getElem?_inj inside nodup).1 (atFirst.trans atSecond.symm)
      rw [same]

/-- A unit finds its lines by their numbers. -/
theorem FlatUnit.line?_eq (unit : FlatUnit) (line : Nat) :
    unit.line? line = atLine? unit.lines line := rfl

end LiveShader
