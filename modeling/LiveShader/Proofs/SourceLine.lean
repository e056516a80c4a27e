import LiveShader.Proofs.Text.Runs
import LiveShader.SourceLine

/-!
# The grammar of source lines

A line is code exactly if the marker of a directive is nowhere in it. Otherwise the first
marker decides, and the quotes behind it: the line includes a file exactly if it can be divided
into the parts of a directive (`InclusionParts.Divides`), which it can be in one way at most, and
all other lines are malformed (`ClassifiesExactly`).
-/

namespace LiveShader.SourceLine

/-- Nothing is behind a marker exactly if there is no marker. -/
theorem afterMarker?_eq_none_iff {text : List Char} :
    afterMarker? text = none ↔ ¬ marker <:+: text := by
  induction text with
  | nil =>
    refine iff_of_true rfl fun inside => ?_
    cases List.infix_nil.1 inside
  | cons head tail inductionHypothesis =>
    rw [afterMarker?, List.infix_cons_iff, ← List.isPrefixOf_iff_prefix, not_or,
      ← inductionHypothesis]
    split
    · rename_i starts
      exact iff_of_false (Option.some_ne_none _) fun absent => absent.1 starts
    · rename_i elsewhere
      exact (and_iff_right elsewhere).symm

/-- A line is code exactly if there is no marker in it. -/
theorem classify_eq_code_iff {line : String} :
    classify line = .code ↔ ¬ marker <:+: line.toList := by
  rw [← afterMarker?_eq_none_iff, classify]
  cases afterMarker? line.toList with
  | none => exact iff_of_true rfl rfl
  | some rest =>
    refine iff_of_false (fun isCode => ?_) (Option.some_ne_none rest)
    simp only at isCode
    split at isCode
    · cases isCode
    · split at isCode
      · cases isCode
      · cases isCode

/-! ## The first marker -/

/-- The marker stands between two parts of a text, and nowhere further to the front. -/
structure MarksFirst (text front back : List Char) : Prop where
  text_eq : text = front ++ (marker ++ back)
  first : ∀ other rest, text = other ++ (marker ++ rest) → front.length ≤ other.length

variable {text front back other rest gap target : List Char}

/-- A text that is divided at a marker has one. -/
theorem MarksFirst.isInfix (marks : MarksFirst text front back) : marker <:+: text :=
  ⟨front, back, by rw [marks.text_eq, List.append_assoc]⟩

/-- There is one first marker. -/
theorem MarksFirst.unique (marks : MarksFirst text front back)
    (others : MarksFirst text other rest) : front = other ∧ back = rest := by
  have same_length : front.length = other.length :=
    Nat.le_antisymm (marks.first _ _ others.text_eq) (others.first _ _ marks.text_eq)
  obtain ⟨front_eq, behind⟩ :=
    List.append_inj (marks.text_eq.symm.trans others.text_eq) same_length
  exact ⟨front_eq, List.append_cancel_left behind⟩

/-- A marker at the start of a text is the first one. -/
theorem marksFirst_nil (back : List Char) : MarksFirst (marker ++ back) [] back :=
  ⟨rfl, fun _ _ _ => Nat.zero_le _⟩

/-- Where a text does not start with a marker, the first one is that of what follows. -/
theorem MarksFirst.cons {head : Char} (marks : MarksFirst text front back)
    (elsewhere : ¬ marker <+: head :: text) : MarksFirst (head :: text) (head :: front) back := by
  refine ⟨congrArg (head :: ·) marks.text_eq, fun other rest text_eq => ?_⟩
  cases other with
  | nil => exact absurd ⟨rest, text_eq.symm⟩ elsewhere
  | cons _ other => exact Nat.succ_le_succ (marks.first other rest (List.cons.inj text_eq).2)

/-- What was found is behind the first marker of the text. -/
theorem exists_marksFirst (found : afterMarker? text = some back) :
    ∃ front, MarksFirst text front back := by
  induction text with
  | nil => cases found
  | cons head tail inductionHypothesis =>
    rw [afterMarker?] at found
    split at found
    · rename_i starts
      obtain ⟨rest, text_eq⟩ := List.isPrefixOf_iff_prefix.1 starts
      rw [← text_eq, List.drop_left, Option.some.injEq] at found
      exact ⟨[], text_eq ▸ found ▸ marksFirst_nil rest⟩
    · rename_i elsewhere
      obtain ⟨front, marks⟩ := inductionHypothesis found
      exact ⟨head :: front, marks.cons fun starts =>
        elsewhere (List.isPrefixOf_iff_prefix.2 starts)⟩

/-- What is behind the first marker is found. -/
theorem MarksFirst.afterMarker?_eq (marks : MarksFirst text front back) :
    afterMarker? text = some back := by
  cases found : afterMarker? text with
  | none => exact absurd marks.isInfix (afterMarker?_eq_none_iff.1 found)
  | some other =>
    obtain ⟨_, others⟩ := exists_marksFirst found
    rw [(marks.unique others).2]

/-! ## The first two quotes -/

/-- What stands in front of a quote, and holds none, is the run that ends at the first quote. -/
theorem runs_unquoted (absent : '"' ∉ front) (behind : List Char) :
    Text.Runs (· ≠ '"') (front ++ '"' :: behind) front ('"' :: behind) where
  text_eq := rfl
  accepted character member := decide_eq_true fun isQuote => absent (isQuote ▸ member)
  ended := by
    rintro character ⟨⟩
    rfl

/-- What is left of a text behind its longest run without a quote starts with the first quote. -/
theorem head_eq_quote {head : Char} {behind : List Char}
    (left : text.dropWhile (· ≠ '"') = head :: behind) : head = '"' := by
  have ended := (Text.runs_takeWhile (· ≠ '"') text).ended head (left ▸ rfl)
  simpa using ended

/-- There is no quote in front of the first. -/
theorem quote_not_mem_takeWhile (text : List Char) : '"' ∉ text.takeWhile (· ≠ '"') := by
  intro member
  simpa using (Text.runs_takeWhile (· ≠ '"') text).accepted _ member

/-- A quoted text stands between the first two quotes. -/
theorem firstQuoted?_eq_some_iff : firstQuoted? text = some target ↔
    ∃ gap rest, text = gap ++ '"' :: (target ++ '"' :: rest) ∧ '"' ∉ gap ∧ '"' ∉ target := by
  constructor
  · intro found
    unfold firstQuoted? at found
    split at found
    · cases found
    · rename_i head inside opens
      obtain ⟨closes, isTarget⟩ := Option.ite_none_right_eq_some.1 found
      obtain rfl := Option.some.inj isTarget
      obtain rfl := head_eq_quote opens
      -- There is a quote inside, so the run without quotes ends at one.
      cases closed : inside.dropWhile (· ≠ '"') with
      | nil =>
        rw [← List.takeWhile_append_dropWhile (p := (· ≠ '"')) (l := inside), closed,
          List.append_nil] at closes
        exact absurd closes (quote_not_mem_takeWhile inside)
      | cons last rest =>
        obtain rfl := head_eq_quote closed
        refine ⟨text.takeWhile (· ≠ '"'), rest, ?_, quote_not_mem_takeWhile text,
          quote_not_mem_takeWhile inside⟩
        rw [← closed, List.takeWhile_append_dropWhile, ← opens, List.takeWhile_append_dropWhile]
  · rintro ⟨gap, rest, rfl, gap_absent, target_absent⟩
    obtain ⟨-, opens⟩ := Text.runs_iff.1 (runs_unquoted gap_absent (target ++ '"' :: rest))
    obtain ⟨closes, -⟩ := Text.runs_iff.1 (runs_unquoted target_absent rest)
    have quoted : '"' ∈ target ++ '"' :: rest := by simp
    simp only [firstQuoted?, ← opens, if_pos quoted, ← closes]

/-! ## The parts of a directive -/

/-- The parts of a line that includes a file: what stands in front of the marker and between
marker and path, the path, and what stands behind it. -/
structure InclusionParts where
  front : List Char
  gap : List Char
  target : List Char
  rest : List Char

namespace InclusionParts

/-- What follows the marker. -/
def behind (parts : InclusionParts) : List Char :=
  parts.gap ++ '"' :: (parts.target ++ '"' :: parts.rest)

/-- Parts that are well formed, put together to a line. -/
structure Divides (parts : InclusionParts) (line : String) : Prop where
  marks : MarksFirst line.toList parts.front parts.behind
  gap : '"' ∉ parts.gap
  nonempty : parts.target ≠ []
  target : '"' ∉ parts.target

variable {parts others : InclusionParts} {line : String}

/-- A line is divided in one way only. -/
theorem Divides.unique (divides : parts.Divides line) (otherwise : others.Divides line) :
    parts = others := by
  obtain ⟨front, gap, target, rest⟩ := parts
  obtain ⟨otherFront, otherGap, otherTarget, otherRest⟩ := others
  obtain ⟨rfl, same⟩ := divides.marks.unique otherwise.marks
  simp only [behind] at same
  obtain ⟨rfl, behind⟩ :=
    (runs_unquoted divides.gap _).unique (same ▸ runs_unquoted otherwise.gap _)
  obtain ⟨rfl, ending⟩ :=
    (runs_unquoted divides.target rest).unique
      ((List.cons.inj behind).2 ▸ runs_unquoted otherwise.target otherRest)
  obtain ⟨-, rfl⟩ := List.cons.inj ending
  rfl

/-- Two quotes at least follow the marker. -/
theorem two_le_count_behind (parts : InclusionParts) : 2 ≤ parts.behind.count '"' := by
  simp only [behind, List.count_append, List.count_cons_self]
  omega

/-- The first two quotes are not adjacent. -/
theorem Divides.behind_ne (divides : parts.Divides line) (absent : '"' ∉ gap) :
    parts.behind ≠ gap ++ '"' :: '"' :: rest := by
  intro same
  obtain ⟨-, behind⟩ := (runs_unquoted divides.gap _).unique (same ▸ runs_unquoted absent _)
  obtain ⟨head, tail, isCons⟩ := List.exists_cons_of_ne_nil divides.nonempty
  have inside := (List.cons.inj behind).2
  rw [isCons, List.cons_append] at inside
  have quoted : '"' ∈ parts.target := by
    rw [isCons, (List.cons.inj inside).1]
    exact List.mem_cons_self
  exact divides.target quoted

end InclusionParts

/-- A line includes a path exactly if the grammar divides it so. -/
theorem classify_eq_inclusion_iff {line target : String} : classify line = .inclusion target ↔
    ∃ parts : InclusionParts, parts.Divides line ∧ String.ofList parts.target = target := by
  constructor
  · intro included
    unfold classify at included
    split at included
    · cases included
    · rename_i back found
      split at included
      · cases included
      · rename_i characters isQuoted
        obtain ⟨front, marks⟩ := exists_marksFirst found
        obtain ⟨gap, rest, rfl, gap_absent, target_absent⟩ := firstQuoted?_eq_some_iff.1 isQuoted
        split at included
        · cases included
        · rename_i nonempty
          exact ⟨⟨front, gap, characters, rest⟩, ⟨marks, gap_absent, nonempty, target_absent⟩,
            inclusion.inj included⟩
  · rintro ⟨parts, divides, rfl⟩
    have isQuoted : firstQuoted? parts.behind = some parts.target :=
      firstQuoted?_eq_some_iff.2 ⟨parts.gap, parts.rest, rfl, divides.gap, divides.target⟩
    simp only [classify, divides.marks.afterMarker?_eq, isQuoted, if_neg divides.nonempty]

/-- A line is malformed exactly if it has a marker and the grammar divides it in no way. -/
theorem classify_eq_malformed_iff {line : String} : classify line = .malformed ↔
    marker <:+: line.toList ∧ ∀ parts : InclusionParts, ¬ parts.Divides line := by
  cases kind : classify line with
  | code =>
    have unmarked := classify_eq_code_iff.1 kind
    exact iff_of_false (by simp) fun ⟨marked, _⟩ => unmarked marked
  | inclusion target =>
    obtain ⟨parts, divides, -⟩ := classify_eq_inclusion_iff.1 kind
    exact iff_of_false (by simp) fun ⟨_, undivided⟩ => undivided parts divides
  | malformed =>
    refine iff_of_true rfl ⟨?_, fun parts divides => ?_⟩
    · refine Decidable.byContradiction fun unmarked => ?_
      cases kind.symm.trans (classify_eq_code_iff.2 unmarked)
    · cases kind.symm.trans (classify_eq_inclusion_iff.2 ⟨parts, divides, rfl⟩)

/-- Lines are classified by their grammar exactly. The first marker decides also where a later
one on the line is followed by a path. -/
structure ClassifiesExactly (classify : String → SourceLine) : Prop where
  inclusion_iff : ∀ line target, classify line = .inclusion target ↔
    ∃ parts : InclusionParts, parts.Divides line ∧ String.ofList parts.target = target
  unique : ∀ line (first second : InclusionParts), first.Divides line → second.Divides line →
    first = second
  code_iff : ∀ line, classify line = .code ↔ ¬ marker <:+: line.toList
  malformed_iff : ∀ line, classify line = .malformed ↔
    marker <:+: line.toList ∧ ∀ parts : InclusionParts, ¬ parts.Divides line
  malformed_of_few : ∀ line front back, MarksFirst line.toList front back →
    back.count '"' < 2 → classify line = .malformed
  malformed_of_adjacent : ∀ line front gap rest,
    MarksFirst line.toList front (gap ++ '"' :: '"' :: rest) → '"' ∉ gap →
      classify line = .malformed

/-- Lines are classified as the grammar says: code has no marker in it, a directive is divided at
its first marker and the two quotes behind it, and what is left is malformed. -/
theorem classify_classifiesExactly : ClassifiesExactly classify where
  inclusion_iff _ _ := classify_eq_inclusion_iff
  unique _ _ _ := InclusionParts.Divides.unique
  code_iff _ := classify_eq_code_iff
  malformed_iff _ := classify_eq_malformed_iff
  malformed_of_few line front back marks few := by
    refine classify_eq_malformed_iff.2 ⟨marks.isInfix, fun parts divides => ?_⟩
    have enough := parts.two_le_count_behind
    rw [← (marks.unique divides.marks).2] at enough
    omega
  malformed_of_adjacent line front gap rest marks absent := by
    refine classify_eq_malformed_iff.2 ⟨marks.isInfix, fun parts divides => ?_⟩
    exact divides.behind_ne absent (marks.unique divides.marks).2.symm

example : classify "#include \"\" #include \"a.glsl\"" = .malformed := by decide

end LiveShader.SourceLine
