import LiveShader.FileTree.Edit
import LiveShader.Proofs.FileTree.Canonicalization

/-!
# Trees with the same frame

The frame of a tree is all of it but the regular files. Where two trees have the same
frame, a path leads to the same place in both, or one of them has nothing there.
-/

namespace LiveShader

namespace FileTree

/-- What is at a location, unless it is a regular file. -/
def fixture? (tree : FileTree) (location : Location) : Option Entry :=
  match tree.entryAt? location with
  | some (.file _) => none
  | found => found

/-- Two trees have the same directories and the same links. -/
def SameFrame (before after : FileTree) : Prop :=
  ∀ location, before.fixture? location = after.fixture? location

/-- A fixture is what is at a location and no regular file. -/
theorem fixture?_eq_some_iff {tree : FileTree} {location : Location} {entry : Entry} :
    tree.fixture? location = some entry ↔
      tree.entryAt? location = some entry ∧ ∀ file, entry ≠ .file file := by
  unfold fixture?
  split
  · rename_i file here
    simp only [reduceCtorEq, here, Option.some.injEq, false_iff, not_and]
    rintro rfl notFile
    exact notFile file rfl
  · rename_i notFile
    simp only [iff_self_and]
    rintro here file rfl
    exact notFile file here

variable {before after : FileTree} {admits : Location → List String → Bool}
  {current location base : Location} {pieces : List String} {path : Path}

namespace SameFrame

/-- Which of the trees is named first does not matter. -/
theorem symm (frame : before.SameFrame after) : after.SameFrame before :=
  fun location => (frame location).symm

/-- A frame that is kept twice is kept. -/
theorem trans {last : FileTree} (first : before.SameFrame after) (second : after.SameFrame last) :
    before.SameFrame last :=
  fun location => (first location).trans (second location)

/-- A directory or a link is in both trees. -/
theorem entryAt?_eq (frame : before.SameFrame after) {entry : Entry}
    (here : before.entryAt? location = some entry) (notFile : ∀ file, entry ≠ .file file) :
    after.entryAt? location = some entry := by
  have fixed := fixture?_eq_some_iff.2 ⟨here, notFile⟩
  rw [frame location] at fixed
  exact (fixture?_eq_some_iff.1 fixed).1

/-- Where one tree has a file, the other has a file or nothing. -/
theorem file_or_none (frame : before.SameFrame after) {file : File}
    (here : before.entryAt? location = some (.file file)) :
    (∃ other, after.entryAt? location = some (.file other)) ∨ after.entryAt? location = none := by
  cases there : after.entryAt? location with
  | none => exact .inr rfl
  | some entry =>
    cases entry with
    | file other => exact .inl ⟨other, rfl⟩
    | directory | link =>
      have same := frame.symm.entryAt?_eq there (by simp)
      simp [here] at same

/-- What is grounded in one tree is so in the other. -/
theorem grounded (frame : before.SameFrame after) (grounded : before.Grounded location) :
    after.Grounded location :=
  fun above isAbove differ => frame.entryAt?_eq (grounded above isAbove differ) (by simp)

/-- A location is reached in one tree if it is in the other. -/
theorem isReached_eq (frame : before.SameFrame after) (location : Location) :
    after.isReached location = before.isReached location := by
  have directories : ∀ place, after.isDirectoryAt place = before.isDirectoryAt place := by
    intro place
    rw [Bool.eq_iff_iff, isDirectoryAt_iff, isDirectoryAt_iff]
    exact ⟨fun here => frame.symm.entryAt?_eq here (by simp),
      fun here => frame.entryAt?_eq here (by simp)⟩
  simp only [isReached, directories]

end SameFrame

/-- A walk in a tree leads to a location, or fails for want of anything there. -/
def Lands (tree : FileTree) (location : Location) (walked : Except Fault Location) : Prop :=
  walked = .ok location ∨ tree.entryAt? location = none ∧ ∃ fault, walked = .error fault

/-- Where a walk leads in one tree, it lands in the other. -/
theorem Walks.lands {follow follow' : Location → List String → Except Fault Location}
    (walks : before.Walks admits follow location current pieces) (frame : before.SameFrame after)
    (follows : ∀ current pieces, follow current pieces = .ok location →
      after.Lands location (follow' current pieces)) :
    after.Lands location (after.walkWith admits follow' current pieces) := by
  induction walks with
  | arrived => exact .inl rfl
  | stay here isFiller onward inductionHypothesis =>
    rw [walkWith_stay (frame.entryAt?_eq here (by simp)) isFiller]
    exact inductionHypothesis
  | up here onward inductionHypothesis =>
    rw [walkWith_up (frame.entryAt?_eq here (by simp))]
    exact inductionHypothesis
  | cross here admitted isLink followed =>
    rw [walkWith_link (frame.entryAt?_eq here (by simp)) admitted
      (frame.entryAt?_eq isLink (by simp))]
    exact follows _ _ followed
  | @enter current rest entry name here admitted found notLink ahead onward inductionHypothesis =>
    have here' := frame.entryAt?_eq here (by simp)
    cases entry with
    | link target => exact absurd rfl (notLink target)
    | directory =>
      rw [walkWith_enter here' admitted (frame.entryAt?_eq found (by simp)) (by simp) ahead]
      exact inductionHypothesis
    | file file =>
      -- A walk ends at the first file that it reaches.
      cases onward with
      | arrived =>
        rcases frame.file_or_none found with ⟨other, there⟩ | there
        · rw [walkWith_enter here' admitted there (by simp) ahead]
          exact .inl rfl
        · refine .inr ⟨there, .missing, ?_⟩
          rw [walkWith_name here', if_pos admitted, there]
      | stay inside | up inside | cross inside | enter inside => simp [found] at inside

/-- Over at most so many links a walk lands where it leads in the other tree. -/
theorem walkBy_lands {links : Nat} (frame : before.SameFrame after)
    (walked : before.walkBy admits links current pieces = .ok location) :
    after.Lands location (after.walkBy admits links current pieces) := by
  induction links generalizing current pieces with
  | zero =>
    refine (walks_of_walkWith walked).lands frame fun _ _ followed => ?_
    cases followed
  | succ links inductionHypothesis =>
    exact (walks_of_walkWith walked).lands frame fun _ _ followed => inductionHypothesis followed

/-- A path starts from the same place in both trees, and lands where it leads in the other. -/
theorem lead_lands {links : Nat} (frame : before.SameFrame after)
    (led : before.lead (before.walkBy admits links) base path = .ok location) :
    after.Lands location (after.lead (after.walkBy admits links) base path) := by
  obtain ⟨nonempty, starts, walked⟩ := lead_eq_ok_iff.1 led
  rw [lead, if_neg nonempty, frame.isReached_eq, if_pos (by simpa using starts)]
  exact walkBy_lands frame walked

/-- A path leads to one place in both trees, or to nothing in the second. -/
theorem locate_lands (frame : before.SameFrame after)
    (located : before.locate base path = .ok location) :
    after.Lands location (after.locate base path) := by
  obtain ⟨noNul, short, led⟩ := locate_eq_ok_iff.1 located
  rw [locate, if_neg (by simpa using noNul), if_neg (Nat.not_lt.2 short)]
  exact lead_lands frame led

/-- A path has one canonical path in both trees, or there is nothing in the second. -/
theorem canonicalize_lands (frame : before.SameFrame after)
    (canonical : before.canonicalize base path = .ok location) :
    after.Lands location (after.canonicalize base path) := by
  obtain ⟨noNul, led⟩ := canonicalize_eq_ok_iff.1 canonical
  rw [canonicalize, if_neg (by simpa using noNul)]
  exact lead_lands frame led

/-! ## Writing a file -/

/-- The head of a list of entries does not count elsewhere. -/
theorem lookup_cons_of_ne {entries : List (Location × Entry)} {entry : Entry}
    {place : Location} (differ : place ≠ location) :
    ((location, entry) :: entries).lookup place = entries.lookup place := by
  rw [List.lookup_cons, beq_eq_false_iff_ne.2 differ]

/-- Without the entries of one location, only that location is changed. -/
theorem lookup_filter_ne (entries : List (Location × Entry)) (location place : Location) :
    (entries.filter (·.1 ≠ location)).lookup place =
      if place = location then none else entries.lookup place := by
  induction entries with
  | nil => simp
  | cons head rest inductionHypothesis =>
    obtain ⟨other, entry⟩ := head
    by_cases isHead : other = location
    · rw [List.filter_cons_of_neg (by simp [isHead]), inductionHypothesis, isHead]
      split
      · rfl
      · rename_i differ
        rw [lookup_cons_of_ne differ]
    · rw [List.filter_cons_of_pos (by simp [isHead])]
      by_cases same : place = other
      · rw [same, List.lookup_cons_self, List.lookup_cons_self, if_neg isHead]
      · rw [lookup_cons_of_ne same, lookup_cons_of_ne same, inductionHypothesis]

/-- Below the root an entry replaces what was at its location. -/
theorem entryAt?_insert {tree : FileTree} (below : location ≠ []) (entry : Entry)
    (place : Location) :
    entryAt? (tree.insert location entry) place =
      if place = location then some entry else tree.entryAt? place := by
  unfold insert
  rw [if_neg below]
  unfold entryAt?
  rw [List.lookup_append, lookup_filter_ne]
  by_cases here : place = location
  · simp [here, below]
  · rw [if_neg here, if_neg here, lookup_cons_of_ne here, List.lookup_nil, Option.or_none]

/-- Writing a regular file keeps the frame where there was no directory and no link. -/
theorem sameFrame_insert {tree : FileTree} (free : tree.fixture? location = none)
    (file : File) : tree.SameFrame (tree.insert location (.file file)) := by
  have below : location ≠ [] := by
    rintro rfl
    simp [fixture?, entryAt?] at free
  intro place
  by_cases here : place = location
  · rw [here, free, fixture?, entryAt?_insert below, if_pos rfl]
  · rw [fixture?, fixture?, entryAt?_insert below, if_neg here]

end FileTree

end LiveShader
