import LiveShader.Provenance.Segment

/-!
# Lines looked up in segments

A line pushed behind all segments is found where it was pushed, whether the last segment
grew or a new one began, and every other line is found where it was.
-/

namespace LiveShader

namespace Segment

/-- A segment contains the lines from its start to its stop. -/
theorem contains_iff {segment : Segment} {line : Nat} :
    segment.contains line = true ↔ segment.start ≤ line ∧ line ≤ segment.stop := by
  simp [contains]

/-- A line is outside a segment in front of its start or behind its stop. -/
theorem contains_eq_false_iff {segment : Segment} {line : Nat} :
    segment.contains line = false ↔ line < segment.start ∨ segment.stop < line := by
  rw [← Bool.not_eq_true, contains_iff]
  omega

/-- A segment goes on with the next line, if that is the next local line too. -/
theorem continuesWith_iff {segment : Segment} {line localLine : Nat} :
    segment.continuesWith line localLine = true ↔
      segment.stop + 1 = line ∧
        segment.stop - segment.start + segment.localStart + 1 = localLine := by
  rw [continuesWith, Bool.and_eq_true, decide_eq_true_eq, decide_eq_true_eq]
  rfl

/-- A segment of one line contains that line alone. -/
theorem contains_single {line localLine query : Nat} :
    (single line localLine).contains query = decide (query = line) := by
  rw [Bool.eq_iff_iff, contains_iff, decide_eq_true_eq]
  simp only [single]
  omega

@[simp] theorem localLine_single (line localLine : Nat) :
    (single line localLine).localLine line = localLine := by
  simp [single, Segment.localLine]

/-- A line behind all segments becomes a line of theirs, and no other line changes. -/
theorem lookup_push {segments : List Segment} {line : Nat} (localLine query : Nat)
    (behind : ∀ segment ∈ segments, segment.start ≤ segment.stop ∧ segment.stop < line) :
    ((push segments line localLine).find? (·.contains query)).map (·.localLine query) =
      if query = line then some localLine
      else (segments.find? (·.contains query)).map (·.localLine query) := by
  fun_induction push segments line localLine with
  | case1 line localLine =>
    by_cases isNew : query = line
    · subst isNew
      simp [contains_single]
    · simp [contains_single, isNew]
  | case2 last line localLine continues =>
    obtain ⟨ordered, below⟩ := behind last List.mem_cons_self
    rw [continuesWith_iff] at continues
    by_cases isNew : query = line
    · have inside : ({ last with stop := line } : Segment).contains query = true := by
        rw [contains_iff]
        exact ⟨by simp only; omega, by simp only; omega⟩
      simp only [List.find?_cons, inside, if_pos isNew, Option.map_some, Segment.localLine,
        Option.some.injEq]
      omega
    · have same : ({ last with stop := line } : Segment).contains query = last.contains query := by
        rw [Bool.eq_iff_iff, contains_iff, contains_iff]
        simp only
        omega
      simp only [List.find?_cons, same, if_neg isNew]
      split <;> simp [Segment.localLine]
  | case3 last line localLine continues =>
    obtain ⟨ordered, below⟩ := behind last List.mem_cons_self
    by_cases isNew : query = line
    · subst isNew
      have outside : last.contains query = false := by
        rw [contains_eq_false_iff]
        omega
      simp [outside, contains_single]
    · simp [List.find?_cons, contains_single, isNew]
  | case4 first second rest line localLine inductionHypothesis =>
    obtain ⟨ordered, below⟩ := behind first List.mem_cons_self
    have later := inductionHypothesis fun segment member =>
      behind segment (List.mem_cons_of_mem _ member)
    rw [List.find?_cons, List.find?_cons]
    cases inFirst : first.contains query with
    | true =>
      have notNew : query ≠ line := by
        rw [contains_iff] at inFirst
        omega
      simp [notNew]
    | false => exact later

/-- All segments stay within the lines so far. -/
theorem push_within {segments : List Segment} {line : Nat} (localLine : Nat)
    (behind : ∀ segment ∈ segments, segment.start ≤ segment.stop ∧ segment.stop < line) :
    ∀ segment ∈ push segments line localLine,
      segment.start ≤ segment.stop ∧ segment.stop ≤ line := by
  fun_induction push segments line localLine with
  | case1 line localLine => simp [single]
  | case2 last line localLine continues =>
    have lastBehind := behind last List.mem_cons_self
    simp only [List.mem_singleton, forall_eq]
    omega
  | case3 last line localLine continues =>
    have lastBehind := behind last List.mem_cons_self
    simp only [List.mem_cons, List.not_mem_nil, or_false, forall_eq_or_imp, forall_eq, single]
    omega
  | case4 first second rest line localLine inductionHypothesis =>
    have firstBehind := behind first List.mem_cons_self
    have later := inductionHypothesis fun segment member =>
      behind segment (List.mem_cons_of_mem _ member)
    intro segment member
    rcases List.mem_cons.1 member with rfl | member
    · omega
    · exact later segment member

/-- How many lines segments have together. -/
def lineSum (segments : List Segment) : Nat :=
  segments.foldr (fun segment count => segment.lineCount + count) 0

/-- A line behind all segments is one line more, whether a segment grows or a new one
begins. -/
theorem lineSum_push {segments : List Segment} {line : Nat} (localLine : Nat)
    (behind : ∀ segment ∈ segments, segment.start ≤ segment.stop ∧ segment.stop < line) :
    lineSum (push segments line localLine) = lineSum segments + 1 := by
  fun_induction push segments line localLine with
  | case1 line localLine => simp [lineSum, lineCount, single]
  | case2 last line localLine continues =>
    have lastBehind := behind last List.mem_cons_self
    rw [continuesWith_iff] at continues
    simp only [lineSum, lineCount, List.foldr_cons, List.foldr_nil]
    omega
  | case3 last line localLine continues =>
    simp only [lineSum, lineCount, List.foldr_cons, List.foldr_nil, single]
    omega
  | case4 first second rest line localLine inductionHypothesis =>
    have later := inductionHypothesis fun segment member =>
      behind segment (List.mem_cons_of_mem _ member)
    calc lineSum (first :: push (second :: rest) line localLine)
        = first.lineCount + lineSum (push (second :: rest) line localLine) := rfl
      _ = first.lineCount + lineSum (second :: rest) + 1 := by rw [later, Nat.add_assoc]

end Segment

end LiveShader
