import LiveShader.Proofs.Resolution.Unfolding

/-!
# Expansion without limits

`Descends` is `Unfolds` without limits, and it keeps an account of the files that were
opened: for which directive, and how deep. The account alone decides what limits do. If
they hold it, they change nothing (`Descends.unfolds`); if not, they cut the expansion off
(`Descends.cutOff`).
-/

namespace LiveShader

/-- The opening of a file: the directive that it was opened for, and how deep the file
stands below the entry. -/
structure Opening where
  contributor : Nat
  localLine : Nat
  depth : Nat
deriving DecidableEq

namespace ResolutionLimits

variable {limits : ResolutionLimits} {files : Nat}

/-- The limits hold openings after so many files. -/
structure Hold (limits : ResolutionLimits) (files : Nat) (openings : List Opening) : Prop where
  deep : ∀ opening ∈ openings, opening.depth ≤ limits.maxDepth
  many : files + openings.length ≤ limits.maxFiles

/-- Limits hold no openings if they hold the files that are there. -/
theorem hold_nil : limits.Hold files [] ↔ files ≤ limits.maxFiles :=
  ⟨fun hold => hold.many, fun room => ⟨by simp, room⟩⟩

/-- Limits hold one opening if it is not too deep and there is room for one more file. -/
theorem hold_singleton {opening : Opening} :
    limits.Hold files [opening] ↔
      opening.depth ≤ limits.maxDepth ∧ files < limits.maxFiles := by
  constructor
  · intro hold
    exact ⟨hold.deep opening List.mem_cons_self, hold.many⟩
  · rintro ⟨deep, room⟩
    exact ⟨by simpa using deep, room⟩

/-- Openings are held one after the other. -/
theorem hold_append {first second : List Opening} :
    limits.Hold files (first ++ second) ↔
      limits.Hold files first ∧ limits.Hold (files + first.length) second := by
  constructor
  · rintro ⟨deep, many⟩
    rw [List.length_append] at many
    refine ⟨⟨?_, by omega⟩, ?_, by omega⟩
    · exact fun opening member => deep opening (List.mem_append_left _ member)
    · exact fun opening member => deep opening (List.mem_append_right _ member)
  · rintro ⟨hold, later⟩
    refine ⟨fun opening member => ?_, ?_⟩
    · exact (List.mem_append.1 member).elim (hold.deep opening) (later.deep opening)
    · rw [List.length_append, ← Nat.add_assoc]
      exact later.many

/-- Limits hold openings if they hold the first one, and the others with one more file. -/
theorem hold_cons {opening : Opening} {openings : List Opening} :
    limits.Hold files (opening :: openings) ↔
      (opening.depth ≤ limits.maxDepth ∧ files < limits.maxFiles) ∧
        limits.Hold (files + 1) openings := by
  rw [← hold_singleton]
  change limits.Hold files ([opening] ++ openings) ↔ _
  exact hold_append

/-- Below a file that does not stand at the deepest level, one level less is allowed. -/
theorem exists_less {depth nesting : Nat} (level : depth + nesting = limits.maxDepth)
    (deep : depth + 1 ≤ limits.maxDepth) :
    ∃ less, nesting = less + 1 ∧ depth + 1 + less = limits.maxDepth :=
  ⟨nesting - 1, by omega, by omega⟩

/-- The failure says that a limit was passed. -/
def CutsOff (limits : ResolutionLimits) (error : ResolutionError) : Prop :=
  ∃ file, error = .tooManyIncludes file limits.maxDepth ∨
    error = .tooManyIncludes file limits.maxFiles

end ResolutionLimits

namespace Workspace

variable (workspace : Workspace)

/-- What expanding lines of a file emits without limits, the openings on the way, and why
it stops, if it does. The file is contributor `index`, it stands `depth` below the entry,
and `opened` are the locations of the contributors so far. -/
inductive Descends : Nat → Location → Nat → List Location → List (String × Nat) →
    List Emission → List Opening → Option Halt → Prop where
  | done {depth location index opened} : Descends depth location index opened [] [] [] none
  | code {depth location index opened text line rest emissions openings halt}
      (isCode : SourceLine.classify text = .code)
      (later : Descends depth location index opened rest emissions openings halt) :
      Descends depth location index opened ((text, line) :: rest)
        (.code index line text :: emissions) openings halt
  | repeated {depth location index opened text line rest target place file emissions openings
        halt}
      (directive : SourceLine.classify text = .inclusion target)
      (leads : workspace.LeadsTo (location.beside target) place file)
      (known : place ∈ opened)
      (later : Descends depth location index opened rest emissions openings halt) :
      Descends depth location index opened ((text, line) :: rest)
        (.repeated index line location place :: emissions) openings halt
  | expanded {depth location index opened text line rest target place file source inner above
        emissions below halt}
      (directive : SourceLine.classify text = .inclusion target)
      (leads : workspace.LeadsTo (location.beside target) place file)
      (fresh : place ∉ opened) (isText : file.text? = some source)
      (inside : Descends (depth + 1) place opened.length (opened ++ [place])
        (numberedLines source) inner above none)
      (later : Descends depth location index (opened ++ place :: Emission.locations inner) rest
        emissions below halt) :
      Descends depth location index opened ((text, line) :: rest)
        (.opened place file :: inner ++ emissions)
        (⟨index, line, depth + 1⟩ :: above ++ below) halt
  | malformed {depth location index opened text line rest}
      (isMalformed : SourceLine.classify text = .malformed) :
      Descends depth location index opened ((text, line) :: rest) [] []
        (some ⟨.malformedInclude location.path line (Text.trim text), none⟩)
  | missing {depth location index opened text line rest target}
      (directive : SourceLine.classify text = .inclusion target)
      (leads : workspace.regular? (location.beside target) = none) :
      Descends depth location index opened ((text, line) :: rest) [] []
        (some ⟨.missingFile (location.beside target) (some (location.path, line)),
          some (workspace.stamp (location.beside target))⟩)
  | overlong {depth location index opened text line rest target place file}
      (directive : SourceLine.classify text = .inclusion target)
      (leads : workspace.regular? (location.beside target) = some (place, file))
      (overlong : workspace.IsOverlong (location.beside target)) :
      Descends depth location index opened ((text, line) :: rest) [] []
        (some ⟨.unreadable (location.beside target) Fault.nameTooLong.message, none⟩)
  | unreadable {depth location index opened text line rest target place file}
      (directive : SourceLine.classify text = .inclusion target)
      (leads : workspace.LeadsTo (location.beside target) place file)
      (fresh : place ∉ opened) (notText : file.text? = none) :
      Descends depth location index opened ((text, line) :: rest) [.opened place file]
        [⟨index, line, depth + 1⟩] (some ⟨.unreadable place.path Fault.notUtf8.message, none⟩)
  | stopped {depth location index opened text line rest target place file source inner above
        halt}
      (directive : SourceLine.classify text = .inclusion target)
      (leads : workspace.LeadsTo (location.beside target) place file)
      (fresh : place ∉ opened) (isText : file.text? = some source)
      (inside : Descends (depth + 1) place opened.length (opened ++ [place])
        (numberedLines source) inner above (some halt)) :
      Descends depth location index opened ((text, line) :: rest)
        (.opened place file :: inner) (⟨index, line, depth + 1⟩ :: above) (some halt)

variable {workspace} {limits : ResolutionLimits} {depth nesting index : Nat}
  {location : Location} {opened : List Location} {remaining : List (String × Nat)}
  {emissions : List Emission} {openings : List Opening} {halt : Option Halt}

/-- Each file that is emitted has its opening. -/
theorem Descends.length_openings
    (descends : workspace.Descends depth location index opened remaining emissions openings halt) :
    openings.length = (Emission.locations emissions).length := by
  induction descends with
  | done | malformed | missing | overlong | unreadable => rfl
  | code isCode later inductionHypothesis => exact inductionHypothesis
  | repeated directive leads known later inductionHypothesis => exact inductionHypothesis
  | expanded directive leads fresh isText inside later insideHypothesis laterHypothesis =>
    simp [insideHypothesis, laterHypothesis]
  | stopped directive leads fresh isText inside insideHypothesis =>
    simp [insideHypothesis]

/-- An expansion that no limit cut off goes as it would without limits. -/
theorem Unfolds.exists_descends
    (unfolds : workspace.Unfolds limits nesting location index opened remaining emissions halt)
    (free : ∀ stop ∈ halt, ¬ limits.CutsOff stop.error) (depth : Nat) :
    ∃ openings,
      workspace.Descends depth location index opened remaining emissions openings halt := by
  induction unfolds generalizing depth with
  | done => exact ⟨[], .done⟩
  | code isCode later inductionHypothesis =>
    obtain ⟨openings, later⟩ := inductionHypothesis free depth
    exact ⟨openings, .code isCode later⟩
  | repeated directive leads known later inductionHypothesis =>
    obtain ⟨openings, later⟩ := inductionHypothesis free depth
    exact ⟨openings, .repeated directive leads known later⟩
  | expanded directive leads fresh room isText inside later insideHypothesis laterHypothesis =>
    obtain ⟨above, inside⟩ := insideHypothesis (by simp) (depth + 1)
    obtain ⟨below, later⟩ := laterHypothesis free depth
    exact ⟨_, .expanded directive leads fresh isText inside later⟩
  | malformed isMalformed => exact ⟨[], .malformed isMalformed⟩
  | missing directive leads => exact ⟨[], .missing directive leads⟩
  | overlong directive leads overlong => exact ⟨[], .overlong directive leads overlong⟩
  | tooDeep => exact absurd ⟨_, .inl rfl⟩ (free _ rfl)
  | tooMany => exact absurd ⟨_, .inr rfl⟩ (free _ rfl)
  | unreadable directive leads fresh room notText =>
    exact ⟨_, .unreadable directive leads fresh notText⟩
  | stopped directive leads fresh room isText inside insideHypothesis =>
    obtain ⟨above, inside⟩ := insideHypothesis free (depth + 1)
    exact ⟨_, .stopped directive leads fresh isText inside⟩

/-! ## What limits do -/

/-- The files opened so far and those inside a new file, where the lines behind its
directive begin. -/
theorem Descends.length_opened {place : Location}
    (descends : workspace.Descends depth location index opened remaining emissions openings halt)
    (before : List Location) :
    (before ++ place :: Emission.locations emissions).length =
      before.length + 1 + openings.length := by
  rw [descends.length_openings, List.length_append, List.length_cons]
  omega

/-- Limits that hold the openings change nothing. -/
theorem Descends.unfolds
    (descends : workspace.Descends depth location index opened remaining emissions openings halt)
    (level : depth + nesting = limits.maxDepth) (hold : limits.Hold opened.length openings) :
    workspace.Unfolds limits nesting location index opened remaining emissions halt := by
  induction descends generalizing nesting with
  | done => exact .done
  | code isCode later inductionHypothesis => exact .code isCode (inductionHypothesis level hold)
  | repeated directive leads known later inductionHypothesis =>
    exact .repeated directive leads known (inductionHypothesis level hold)
  | expanded directive leads fresh isText inside later insideHypothesis laterHypothesis =>
    rw [List.cons_append, ResolutionLimits.hold_cons, ResolutionLimits.hold_append] at hold
    obtain ⟨⟨deep, room⟩, above, below⟩ := hold
    obtain ⟨less, rfl, lessLevel⟩ := ResolutionLimits.exists_less level deep
    have unfoldsInside := insideHypothesis lessLevel (by simpa using above)
    have unfoldsLater := laterHypothesis level (by rwa [inside.length_opened])
    exact .expanded directive leads fresh room isText unfoldsInside unfoldsLater
  | malformed isMalformed => exact .malformed isMalformed
  | missing directive leads => exact .missing directive leads
  | overlong directive leads overlong => exact .overlong directive leads overlong
  | unreadable directive leads fresh notText =>
    obtain ⟨deep, room⟩ := ResolutionLimits.hold_singleton.1 hold
    obtain ⟨less, rfl, -⟩ := ResolutionLimits.exists_less level deep
    exact .unreadable directive leads fresh room notText
  | stopped directive leads fresh isText inside insideHypothesis =>
    obtain ⟨⟨deep, room⟩, above⟩ := ResolutionLimits.hold_cons.1 hold
    obtain ⟨less, rfl, lessLevel⟩ := ResolutionLimits.exists_less level deep
    have unfoldsInside := insideHypothesis lessLevel (by simpa using above)
    exact .stopped directive leads fresh room isText unfoldsInside

/-- Lines of a file are cut off by a limit. -/
def CutOff (workspace : Workspace) (limits : ResolutionLimits) (nesting : Nat)
    (location : Location) (index : Nat) (opened : List Location)
    (remaining : List (String × Nat)) : Prop :=
  ∃ emissions halt, limits.CutsOff halt.error ∧
    workspace.Unfolds limits nesting location index opened remaining emissions (some halt)

/-- A directive for a new file that the limits do not hold is where they cut off. -/
theorem cutOff_of_directive {text target : String} {line : Nat} {rest : List (String × Nat)}
    {place : Location} {file : File} (directive : SourceLine.classify text = .inclusion target)
    (leads : workspace.LeadsTo (location.beside target) place file)
    (fresh : place ∉ opened) (level : depth + nesting = limits.maxDepth)
    (excess : ¬(depth + 1 ≤ limits.maxDepth ∧ opened.length < limits.maxFiles)) :
    workspace.CutOff limits nesting location index opened ((text, line) :: rest) := by
  cases nesting with
  | zero => exact ⟨_, _, ⟨_, .inl rfl⟩, .tooDeep directive leads fresh⟩
  | succ nesting =>
    have full : limits.maxFiles ≤ opened.length := by omega
    exact ⟨_, _, ⟨_, .inr rfl⟩, .tooMany directive leads fresh full⟩

/-- A new file whose lines are cut off cuts off the lines of its includer. -/
theorem CutOff.stopped {text target source : String} {line : Nat} {rest : List (String × Nat)}
    {place : Location} {file : File} (directive : SourceLine.classify text = .inclusion target)
    (leads : workspace.LeadsTo (location.beside target) place file)
    (fresh : place ∉ opened) (room : opened.length < limits.maxFiles)
    (isText : file.text? = some source)
    (inside : workspace.CutOff limits nesting place opened.length (opened ++ [place])
      (numberedLines source)) :
    workspace.CutOff limits (nesting + 1) location index opened ((text, line) :: rest) := by
  obtain ⟨inner, halt, cutsOff, unfolds⟩ := inside
  exact ⟨_, halt, cutsOff, .stopped directive leads fresh room isText unfolds⟩

/-- Limits that do not hold the openings cut the expansion off. -/
theorem Descends.cutOff
    (descends : workspace.Descends depth location index opened remaining emissions openings halt)
    (level : depth + nesting = limits.maxDepth) (room : opened.length ≤ limits.maxFiles)
    (excess : ¬ limits.Hold opened.length openings) :
    workspace.CutOff limits nesting location index opened remaining := by
  induction descends generalizing nesting with
  | done | malformed | missing | overlong => exact absurd (ResolutionLimits.hold_nil.2 room) excess
  | code isCode later inductionHypothesis =>
    obtain ⟨emissions, halt, cutsOff, unfolds⟩ := inductionHypothesis level room excess
    exact ⟨_, halt, cutsOff, .code isCode unfolds⟩
  | repeated directive leads known later inductionHypothesis =>
    obtain ⟨emissions, halt, cutsOff, unfolds⟩ := inductionHypothesis level room excess
    exact ⟨_, halt, cutsOff, .repeated directive leads known unfolds⟩
  | @expanded depth _ _ opened _ _ _ _ place _ _ _ above _ below _ directive leads fresh isText
      inside later insideHypothesis laterHypothesis =>
    rw [List.cons_append, ResolutionLimits.hold_cons, ResolutionLimits.hold_append] at excess
    -- The directive is the first to be beyond the limits, or a line of the file, or one behind.
    by_cases here : depth + 1 ≤ limits.maxDepth ∧ opened.length < limits.maxFiles
    · obtain ⟨less, rfl, lessLevel⟩ := ResolutionLimits.exists_less level here.1
      by_cases above : limits.Hold (opened.length + 1) above
      · have unfoldsInside := inside.unfolds lessLevel (by simpa using above)
        obtain ⟨emissions, halt, cutsOff, unfoldsLater⟩ := laterHypothesis level
          (by rw [inside.length_opened]; exact above.many)
          (by rw [inside.length_opened]; exact fun below => excess ⟨here, above, below⟩)
        exact ⟨_, halt, cutsOff,
          .expanded directive leads fresh here.2 isText unfoldsInside unfoldsLater⟩
      · exact .stopped directive leads fresh here.2 isText
          (insideHypothesis lessLevel (by simpa using Nat.succ_le_of_lt here.2)
            (by simpa using above))
    · exact cutOff_of_directive directive leads fresh level here
  | unreadable directive leads fresh notText =>
    exact cutOff_of_directive directive leads fresh level fun held =>
      excess (ResolutionLimits.hold_singleton.2 held)
  | @stopped depth _ _ opened _ _ _ _ _ _ _ _ above _ directive leads fresh isText inside
      insideHypothesis =>
    rw [ResolutionLimits.hold_cons] at excess
    by_cases here : depth + 1 ≤ limits.maxDepth ∧ opened.length < limits.maxFiles
    · obtain ⟨less, rfl, lessLevel⟩ := ResolutionLimits.exists_less level here.1
      have above : ¬ limits.Hold (opened.length + 1) above := fun above => excess ⟨here, above⟩
      exact .stopped directive leads fresh here.2 isText
        (insideHypothesis lessLevel (by simpa using Nat.succ_le_of_lt here.2)
          (by simpa using above))
    · exact cutOff_of_directive directive leads fresh level here

end Workspace

end LiveShader
