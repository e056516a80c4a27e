import Mathlib.Data.List.Nodup
import LiveShader.Proofs.Resolution.Course
import LiveShader.Proofs.Resolution.Unlimited

/-!
# An expansion covers its files

The origins of a finished expansion, together with the directives that files were opened
for, are the lines of these files, each line once (`Descends.covers`).
-/

namespace LiveShader

/-- The line that the directive would have left, had its file been opened before. -/
def Opening.blank (opening : Opening) : Origin × String :=
  (.repeated opening.contributor opening.localLine, "")

namespace Origin

/-- The number of the line in its file. -/
def localLine : Origin → Nat
  | .own _ localLine | .repeated _ localLine => localLine

/-- The line is a placeholder. -/
def isRepeated : Origin → Bool
  | .own _ _ => false
  | .repeated _ _ => true

/-- What a line of a file becomes, if it stays a line: itself if it is code, a blank if it
is a directive. -/
def ofLine? (contributor : Nat) (numbered : String × Nat) : Option (Origin × String) :=
  match SourceLine.classify numbered.1 with
  | .code => some (.own contributor numbered.2, numbered.1)
  | .inclusion _ => some (.repeated contributor numbered.2, "")
  | .malformed => none

/-- A line is owned exactly if it is code, with its own text. -/
theorem ofLine?_own_iff {contributor index localLine : Nat} {numbered : String × Nat}
    {text : String} :
    ofLine? index numbered = some (.own contributor localLine, text) ↔
      index = contributor ∧ numbered = (text, localLine) ∧ SourceLine.classify text = .code := by
  obtain ⟨line, number⟩ := numbered
  unfold ofLine?
  split <;> rename_i kind
  · simp only [Option.some.injEq, Prod.mk.injEq, own.injEq]
    constructor
    · rintro ⟨⟨rfl, rfl⟩, rfl⟩
      exact ⟨rfl, ⟨rfl, rfl⟩, kind⟩
    · rintro ⟨rfl, ⟨rfl, rfl⟩, -⟩
      exact ⟨⟨rfl, rfl⟩, rfl⟩
  · simp only [Option.some.injEq, Prod.mk.injEq, reduceCtorEq, false_and, false_iff, not_and]
    rintro - ⟨rfl, -⟩ isCode
    simp [isCode] at kind
  · simp only [reduceCtorEq, Prod.mk.injEq, false_iff, not_and]
    rintro - ⟨rfl, -⟩ isCode
    simp [isCode] at kind

/-- A line is repeated exactly if it is a directive, and is blank then. -/
theorem ofLine?_repeated_iff {contributor index localLine : Nat} {numbered : String × Nat}
    {text : String} :
    ofLine? index numbered = some (.repeated contributor localLine, text) ↔
      index = contributor ∧ numbered.2 = localLine ∧ text = "" ∧
        ∃ target, SourceLine.classify numbered.1 = .inclusion target := by
  unfold ofLine?
  split <;> rename_i kind
  · simp [kind]
  · simp only [Option.some.injEq, Prod.mk.injEq, repeated.injEq, kind, SourceLine.inclusion.injEq,
      exists_eq', and_true, and_assoc, eq_comm (a := "")]
  · simp [kind]

/-- An origin tells which line it comes from. -/
theorem eq_of_ofLine? {index : Nat} {numbered : String × Nat} {made : Origin × String}
    (isLine : ofLine? index numbered = some made) :
    made.1.contributor = index ∧ made.1.localLine = numbered.2 := by
  unfold ofLine? at isLine
  split at isLine <;> cases isLine <;> exact ⟨rfl, rfl⟩

end Origin

namespace Workspace

variable {workspace : Workspace} {limits : ResolutionLimits}

/-! ## All lines of files -/

/-- The lines of the file at a location with their numbers. -/
def numberedSource (workspace : Workspace) (location : Location) : List (String × Nat) :=
  (workspace.sourceLines location.path).zipIdx 1

/-- The numbered lines of a file are those of its text. -/
theorem numberedSource_eq {location : Location} {file : File} {text : String}
    (present : workspace.tree.file? location = some file) (isText : file.text? = some text) :
    workspace.numberedSource location = numberedLines text := by
  rw [numberedSource, sourceLines_path present isText, numberedLines]

/-- A numbered line of a file is a source line of it. -/
theorem mem_numberedSource_iff {location : Location} {text : String} {line : Nat} :
    (text, line) ∈ workspace.numberedSource location ↔
      workspace.sourceLine? location.path line = some text :=
  mem_zipIdx_one_iff

/-- What the lines of one file become. -/
def linesOf (workspace : Workspace) (index : Nat) (location : Location) :
    List (Origin × String) :=
  (workspace.numberedSource location).filterMap (Origin.ofLine? index)

/-- What the lines of files become that are contributors from `start` on. -/
def linesFrom (workspace : Workspace) (start : Nat) (locations : List Location) :
    List (Origin × String) :=
  (locations.zipIdx start).flatMap fun (location, index) => workspace.linesOf index location

@[simp] theorem linesFrom_nil (start : Nat) : workspace.linesFrom start [] = [] := rfl

/-- The lines from files are those of the first one, and then of the others. -/
theorem linesFrom_cons (start : Nat) (location : Location) (locations : List Location) :
    workspace.linesFrom start (location :: locations) =
      workspace.linesOf start location ++ workspace.linesFrom (start + 1) locations := by
  simp [linesFrom, List.zipIdx_cons]

/-- The lines from files are those of the first ones and of the others. -/
theorem linesFrom_append (start : Nat) (first second : List Location) :
    workspace.linesFrom start (first ++ second) =
      workspace.linesFrom start first ++ workspace.linesFrom (start + first.length) second := by
  simp [linesFrom, List.zipIdx_append]

/-- A line from files is a line of one of them, with its index. -/
theorem mem_linesFrom_zero_iff {locations : List Location} {made : Origin × String} :
    made ∈ workspace.linesFrom 0 locations ↔
      ∃ index location numbered, locations[index]? = some location ∧
        numbered ∈ workspace.numberedSource location ∧
          Origin.ofLine? index numbered = some made := by
  simp only [linesFrom, linesOf, List.mem_flatMap, Prod.exists, List.mem_filterMap,
    List.mem_zipIdx_iff_getElem?]
  constructor
  · rintro ⟨location, index, atIndex, text, line, member, isLine⟩
    exact ⟨index, location, text, line, atIndex, member, isLine⟩
  · rintro ⟨index, location, text, line, atIndex, member, isLine⟩
    exact ⟨location, index, atIndex, text, line, member, isLine⟩

/-- A line of a file has one number. -/
theorem nodup_map_linesOf (index : Nat) (location : Location) :
    ((workspace.linesOf index location).map Prod.fst).Nodup := by
  rw [linesOf, List.map_filterMap, List.Nodup, List.pairwise_filterMap]
  have numbers : (workspace.numberedSource location).Pairwise fun left right =>
      left.2 ≠ right.2 := by
    have range : ((workspace.numberedSource location).map Prod.snd).Nodup := by
      rw [numberedSource, List.zipIdx_map_snd]
      exact List.nodup_range' 1
    exact List.pairwise_map.1 range
  refine numbers.imp fun {left right} differ origin isLeft other isRight same => differ ?_
  obtain ⟨made, madeLeft, rfl⟩ := Option.map_eq_some_iff.1 isLeft
  obtain ⟨others, madeRight, rfl⟩ := Option.map_eq_some_iff.1 isRight
  rw [← (Origin.eq_of_ofLine? madeLeft).2, same, (Origin.eq_of_ofLine? madeRight).2]

/-- No two lines of files have the same origin. -/
theorem nodup_map_linesFrom (start : Nat) (locations : List Location) :
    ((workspace.linesFrom start locations).map Prod.fst).Nodup := by
  induction locations generalizing start with
  | nil => simp
  | cons location rest inductionHypothesis =>
    rw [linesFrom_cons, List.map_append, List.nodup_append']
    refine ⟨nodup_map_linesOf start location, inductionHypothesis (start + 1), ?_⟩
    intro origin here later
    obtain ⟨made, madeHere, rfl⟩ := List.mem_map.1 here
    obtain ⟨other, madeLater, same⟩ := List.mem_map.1 later
    obtain ⟨numbered, -, isLine⟩ := List.mem_filterMap.1 madeHere
    obtain ⟨⟨place, index⟩, indexMember, inPlace⟩ := List.mem_flatMap.1 madeLater
    obtain ⟨others, -, isOther⟩ := List.mem_filterMap.1 inPlace
    have behind := (List.mk_mem_zipIdx_iff_le_and_getElem?_sub.1 indexMember).1
    have first := (Origin.eq_of_ofLine? isLine).1
    have second := (Origin.eq_of_ofLine? isOther).1
    rw [← same, second] at first
    omega

/-! ## Nothing is lost -/

/-- A finished expansion emits every line of the files it goes through once, but for the
directives that files were opened for. -/
theorem Descends.covers {depth : Nat} {location : Location} {index : Nat}
    {opened : List Location} {remaining : List (String × Nat)} {emissions : List Emission}
    {openings : List Opening} {halt : Option Halt}
    (descends : workspace.Descends depth location index opened remaining emissions openings halt)
    (finished : halt = none) :
    (Emission.lines emissions ++ openings.map Opening.blank).Perm
      (remaining.filterMap (Origin.ofLine? index) ++
        workspace.linesFrom opened.length (Emission.locations emissions)) := by
  induction descends with
  | done => simp
  | @code _ _ index _ text line _ _ _ _ isCode later inductionHypothesis =>
    have becomes : Origin.ofLine? index (text, line) = some (.own index line, text) := by
      simp [Origin.ofLine?, isCode]
    simpa [List.filterMap_cons, becomes] using inductionHypothesis finished
  | @repeated _ _ index _ text line _ _ _ _ _ _ _ directive leads known later
      inductionHypothesis =>
    have becomes : Origin.ofLine? index (text, line) = some (.repeated index line, "") := by
      simp [Origin.ofLine?, directive]
    simpa [List.filterMap_cons, becomes] using inductionHypothesis finished
  | @expanded depth _ index opened text line rest target place file source inner above emissions
      below _ directive leads fresh isText inside later insideHypothesis laterHypothesis =>
    have becomes : Origin.ofLine? index (text, line) =
        some (Opening.blank ⟨index, line, depth + 1⟩) := by
      simp [Origin.ofLine?, directive, Opening.blank]
    have insideLines : (numberedLines source).filterMap (Origin.ofLine? opened.length) =
        workspace.linesOf opened.length place := by
      rw [linesOf, numberedSource_eq leads.present isText]
    rw [List.perm_iff_count]
    intro made
    have aboveCount := (insideHypothesis rfl).count_eq made
    have belowCount := (laterHypothesis finished).count_eq made
    simp only [Emission.lines_opened, Emission.lines_append, Emission.locations_opened,
      Emission.locations_append, List.cons_append, List.filterMap_cons, becomes, linesFrom_cons,
      linesFrom_append, insideLines, List.map_cons, List.map_append, List.count_append,
      List.count_cons, List.length_append, List.length_cons, List.length_nil, Nat.zero_add,
      ← Nat.add_assoc, Nat.add_right_comm _ 1] at aboveCount belowCount ⊢
    omega
  | malformed | missing | overlong | unreadable | stopped => cases finished

namespace Course

variable {entry : Path} {resolution : Resolution}
  (course : workspace.Course entry limits resolution)

/-- The account of the files below the entry of a unit: they were opened as they would be
without limits. -/
def Accounts (openings : List Opening) : Prop :=
  workspace.Descends 0 course.location 0 [course.location] (numberedLines course.text)
    course.emissions openings none

/-- The course of a unit accounts for its openings. -/
theorem exists_accounts : ∃ openings, course.Accounts openings :=
  course.unfolds.exists_descends (by simp) 0

section Accounts

variable {course} {openings : List Opening} (accounts : course.Accounts openings)

include accounts

/-- Each file but the entry has its opening. -/
theorem Accounts.length_opened : course.opened.length = openings.length + 1 := by
  rw [Descends.length_openings accounts, opened_eq, List.length_cons]

/-- The lines of the unit, together with the directives that files were opened for, are the
lines of all files. -/
theorem Accounts.covers :
    (Emission.lines course.trace ++ openings.map Opening.blank).Perm
      (workspace.linesFrom 0 course.opened) := by
  rw [opened_eq, linesFrom_cons, linesOf, numberedSource_eq course.file?_location course.isText]
  exact Descends.covers accounts rfl

/-- No two lines of a unit have the same origin, and none has that of a directive that a
file was opened for. -/
theorem Accounts.nodup_origins :
    ((Emission.lines course.trace).map Prod.fst ++
      (openings.map Opening.blank).map Prod.fst).Nodup := by
  rw [← List.map_append]
  exact (accounts.covers.map Prod.fst).nodup_iff.2 (nodup_map_linesFrom 0 course.opened)

end Accounts

/-- No two lines of a unit have the same origin. -/
theorem nodup_origins : ((Emission.lines course.trace).map Prod.fst).Nodup := by
  obtain ⟨openings, accounts⟩ := course.exists_accounts
  exact (List.nodup_append'.1 accounts.nodup_origins).1

/-- Every line of a unit is made from a line of one of its files. -/
theorem mem_linesFrom {made : Origin × String} (member : made ∈ Emission.lines course.trace) :
    made ∈ workspace.linesFrom 0 course.opened := by
  obtain ⟨openings, accounts⟩ := course.exists_accounts
  exact accounts.covers.subset (List.mem_append_left _ member)

/-- Every line of code of a file is a line of the unit. -/
theorem mem_lines_of_own {index localLine : Nat} {text : String}
    (member : (.own index localLine, text) ∈ workspace.linesFrom 0 course.opened) :
    (.own index localLine, text) ∈ Emission.lines course.trace := by
  obtain ⟨openings, accounts⟩ := course.exists_accounts
  rcases List.mem_append.1 (accounts.covers.symm.subset member) with here | here
  · exact here
  · obtain ⟨opening, -, isBlank⟩ := List.mem_map.1 here
    cases isBlank

end Course

end Workspace

end LiveShader
