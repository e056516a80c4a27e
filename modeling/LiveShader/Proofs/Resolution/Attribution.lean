import LiveShader.Proofs.Resolution.Closure
import LiveShader.Proofs.Resolution.Coverage
import LiveShader.Proofs.Text.Lines

/-!
# Lines and attributions correspond one to one

Each line of a unit is attributed to one line of one file, and each line of code of each
file is one line of the unit. What remains are the directives: each leaves a placeholder
or opens a file.
-/

namespace LiveShader

/-- A directive is well formed. -/
def SourceLine.isInclusion : SourceLine → Bool
  | .inclusion _ => true
  | _ => false

namespace Workspace

variable (workspace : Workspace)

/-- How many well-formed directives the files at paths have. -/
def directiveCount (paths : List Path) : Nat :=
  (paths.flatMap workspace.sourceLines).countP fun text => (SourceLine.classify text).isInclusion

/-- A line of a unit is a line of code that the file at this place has. -/
structure OwnedLine (resolution : Resolution) (line : Nat) (place : Place) : Prop where
  recorded : resolution.provenance.contributors[place.index]? = some place.contributor
  isCode : ∃ text, workspace.sourceLine? place.contributor.path place.localLine = some text ∧
    SourceLine.classify text = .code ∧ resolution.unit.line? line = some text

/-- A line of a unit is the blank for a directive at this place, and the file that the
directive leads to is one of the unit. -/
structure BlankLine (resolution : Resolution) (line : Nat) (place : Place) : Prop where
  recorded : resolution.provenance.contributors[place.index]? = some place.contributor
  isDirective : ∃ text target location file,
    workspace.sourceLine? place.contributor.path place.localLine = some text ∧
      SourceLine.classify text = .inclusion target ∧
      workspace.regular? (place.contributor.path.location.beside target) =
        some (location, file) ∧
      location.path ∈ resolution.provenance.contributors.map Contributor.path
  isBlank : resolution.unit.line? line = some ""

/-- The attribution of lines is a bijection between the lines of a unit and the lines of
its files, but for the directives that opened a file. -/
structure AttributesLines (resolution : Resolution) : Prop where
  lineCount_eq : resolution.unit.lineCount = resolution.provenance.totalLines
  isSource : ∀ contributor ∈ resolution.provenance.contributors, ∃ location file text,
    contributor.path = location.path ∧ workspace.tree.file? location = some file ∧
      file.text? = some text
  attributed : ∀ line, 1 ≤ line → line ≤ resolution.provenance.totalLines →
    (∃ place, resolution.provenance.attribution line = .own place ∧
      workspace.OwnedLine resolution line place) ∨
    ∃ place, resolution.provenance.attribution line = .enclosing place ∧
      workspace.BlankLine resolution line place
  unresolved : ∀ line, line = 0 ∨ resolution.provenance.totalLines < line →
    resolution.provenance.attribution line = .unresolved
  existsUnique_own : ∀ index contributor localLine text,
    resolution.provenance.contributors[index]? = some contributor →
    workspace.sourceLine? contributor.path localLine = some text →
    SourceLine.classify text = .code →
    ∃! line, resolution.provenance.attribution line = .own ⟨index, contributor, localLine⟩
  enclosing_inj : ∀ first second place,
    resolution.provenance.attribution first = .enclosing place →
    resolution.provenance.attribution second = .enclosing place → first = second
  directives_eq :
    workspace.directiveCount (resolution.provenance.contributors.map Contributor.path) + 1 =
      resolution.provenance.placeholders.length + resolution.provenance.contributors.length

variable {workspace}

/-! ## Counting directives -/

/-- In a file as many lines are repeated as there are directives in it. -/
theorem countP_linesOf (index : Nat) (location : Location) :
    (workspace.linesOf index location).countP (fun made => made.1.isRepeated) =
      workspace.directiveCount [location.path] := by
  have texts : [location.path].flatMap workspace.sourceLines =
      (workspace.numberedSource location).map Prod.fst := by
    rw [numberedSource, List.zipIdx_map_fst, List.flatMap_singleton]
  rw [linesOf, directiveCount, texts, List.countP_filterMap, List.countP_map]
  congr 1
  funext numbered
  simp only [Origin.ofLine?, Function.comp_apply]
  cases SourceLine.classify numbered.1 <;> rfl

/-- The directives of files are those of the first and of the others. -/
theorem directiveCount_cons (path : Path) (paths : List Path) :
    workspace.directiveCount (path :: paths) =
      workspace.directiveCount [path] + workspace.directiveCount paths := by
  simp [directiveCount]

/-- In files as many lines are repeated as there are directives in them. -/
theorem countP_linesFrom (start : Nat) (locations : List Location) :
    (workspace.linesFrom start locations).countP (fun made => made.1.isRepeated) =
      workspace.directiveCount (locations.map Location.path) := by
  induction locations generalizing start with
  | nil => rfl
  | cons location rest inductionHypothesis =>
    rw [linesFrom_cons, List.countP_append, countP_linesOf, inductionHypothesis]
    exact (directiveCount_cons location.path (rest.map Location.path)).symm

end Workspace

/-- There is one placeholder for each origin that is repeated. -/
theorem Origin.length_placeholders (origins : List Origin) :
    (placeholders origins).length = origins.countP isRepeated := by
  have numbered : origins = (origins.zipIdx 1).map Prod.fst := (List.zipIdx_map_fst 1 _).symm
  rw [placeholders, List.length_filterMap_eq_countP]
  conv_rhs => rw [numbered, List.countP_map]
  congr 1
  funext numbered
  obtain ⟨origin, line⟩ := numbered
  cases origin <;> rfl

/-- The lines of a file hold no line feed. -/
theorem Workspace.areLines_sourceLines (workspace : Workspace) (path : Path) :
    Text.AreLines (workspace.sourceLines path) := by
  unfold sourceLines
  split
  · exact Text.areLines_lines _
  · simp [Text.AreLines]

namespace Workspace.Course

variable {workspace : Workspace} {limits : ResolutionLimits} {entry : Path}
  {resolution : Resolution} (course : workspace.Course entry limits resolution)

include course in
/-- The directives of all files leave a placeholder each, or open a file. The entry is the
one file that no directive opened. -/
theorem directives_eq :
    workspace.directiveCount (resolution.provenance.contributors.map Contributor.path) + 1 =
      resolution.provenance.placeholders.length +
        resolution.provenance.contributors.length := by
  obtain ⟨openings, accounts⟩ := course.exists_accounts
  have counts := accounts.covers.countP_eq (fun made => made.1.isRepeated)
  have allRepeated : (openings.map Opening.blank).countP (fun made => made.1.isRepeated) =
      openings.length := by
    rw [List.countP_map, List.countP_eq_length]
    exact fun _ _ => rfl
  have placeholders : resolution.provenance.placeholders.length =
      (Emission.lines course.trace).countP (fun made => made.1.isRepeated) := by
    rw [course.records.placeholders_eq, Origin.length_placeholders, List.countP_map]
    rfl
  rw [List.countP_append, allRepeated, countP_linesFrom] at counts
  rw [course.paths_eq, placeholders, course.length_contributors, accounts.length_opened]
  omega

/-- The origin and the text of a line stand at the same number. -/
theorem atLine?_lines {line : Nat} {origin : Origin}
    (here : atLine? ((Emission.lines course.trace).map Prod.fst) line = some origin) :
    ∃ text, (origin, text) ∈ Emission.lines course.trace ∧
      resolution.unit.line? line = some text := by
  rw [atLine?_map, Option.map_eq_some_iff] at here
  obtain ⟨⟨_, text⟩, atLine, rfl⟩ := here
  refine ⟨text, mem_of_atLine? atLine, ?_⟩
  rw [FlatUnit.line?_eq, course.unit_lines_eq, atLine?_map, atLine]
  rfl

/-- What a line is made from is a line of the contributor that its origin names. -/
theorem exists_source {made : Origin × String} (member : made ∈ Emission.lines course.trace) :
    ∃ location contributor numbered,
      course.opened[made.1.contributor]? = some location ∧
      resolution.provenance.contributors[made.1.contributor]? = some contributor ∧
      contributor.path = location.path ∧
      numbered ∈ workspace.numberedSource location ∧
      Origin.ofLine? made.1.contributor numbered = some made := by
  obtain ⟨index, location, numbered, atIndex, numberedMember, isLine⟩ :=
    mem_linesFrom_zero_iff.1 (course.mem_linesFrom member)
  obtain rfl := (Origin.eq_of_ofLine? isLine).1
  obtain ⟨contributor, recorded, path_eq⟩ := course.contributor_of_opened atIndex
  exact ⟨location, contributor, numbered, atIndex, recorded, path_eq, numberedMember, isLine⟩

include course in
/-- A line of a unit is blank or a line of code of a file. -/
theorem blank_or_code {line : String} (member : line ∈ resolution.unit.lines) :
    line = "" ∨ SourceLine.classify line = .code ∧
      ∃ location ∈ course.opened, line ∈ workspace.sourceLines location.path := by
  rw [course.unit_lines_eq] at member
  obtain ⟨⟨origin, text⟩, made, rfl⟩ := List.mem_map.1 member
  obtain ⟨location, -, numbered, atIndex, -, -, numberedMember, isLine⟩ := course.exists_source made
  cases origin with
  | own index localLine =>
    obtain ⟨-, rfl, isCode⟩ := Origin.ofLine?_own_iff.1 isLine
    exact .inr ⟨isCode, location, List.mem_of_getElem? atIndex,
      mem_of_atLine? (mem_numberedSource_iff.1 numberedMember)⟩
  | repeated index localLine =>
    obtain ⟨-, -, isBlank, -⟩ := Origin.ofLine?_repeated_iff.1 isLine
    exact .inl isBlank

include course in
/-- The lines of a unit hold no line feed. -/
theorem areLines : Text.AreLines resolution.unit.lines := by
  intro line member
  rcases course.blank_or_code member with rfl | ⟨-, location, -, sourceMember⟩
  · simp
  · exact workspace.areLines_sourceLines location.path line sourceMember

/-- An origin in the list of a unit is one of a line of code, or one of a directive. -/
theorem ownedLine {line index localLine : Nat}
    (here : atLine? ((Emission.lines course.trace).map Prod.fst) line =
      some (.own index localLine)) :
    ∃ contributor, resolution.provenance.attribution line =
        .own ⟨index, contributor, localLine⟩ ∧
      workspace.OwnedLine resolution line ⟨index, contributor, localLine⟩ := by
  obtain ⟨text, member, atLine⟩ := course.atLine?_lines here
  obtain ⟨location, contributor, numbered, -, recorded, path_eq, numberedMember, isLine⟩ :=
    course.exists_source member
  obtain ⟨-, rfl, isCode⟩ := Origin.ofLine?_own_iff.1 isLine
  refine ⟨contributor, course.records.attribution_own_iff.2 ⟨recorded, here⟩, recorded, ?_⟩
  exact ⟨text, by rw [path_eq]; exact mem_numberedSource_iff.1 numberedMember, isCode, atLine⟩

/-- A repeated line is blank, and encloses the directive that it stands for. -/
theorem blankLine {line index localLine : Nat}
    (here : atLine? ((Emission.lines course.trace).map Prod.fst) line =
      some (.repeated index localLine)) :
    ∃ contributor, resolution.provenance.attribution line =
        .enclosing ⟨index, contributor, localLine⟩ ∧
      workspace.BlankLine resolution line ⟨index, contributor, localLine⟩ := by
  obtain ⟨blank, member, atLine⟩ := course.atLine?_lines here
  obtain ⟨location, contributor, ⟨text, number⟩, atIndex, recorded, path_eq, numberedMember,
    isLine⟩ := course.exists_source member
  obtain ⟨-, rfl, rfl, target, directive⟩ := Origin.ofLine?_repeated_iff.1 isLine
  have sourceLine := mem_numberedSource_iff.1 numberedMember
  obtain ⟨file, source, present, isText, served⟩ := course.served (List.mem_of_getElem? atIndex)
  obtain ⟨place, placeFile, leads, known⟩ := (served text (by
    rw [← sourceLines_path present isText]
    exact mem_of_atLine? sourceLine)).leads directive
  refine ⟨contributor, course.records.attribution_enclosing_iff.2 ⟨recorded, here⟩, recorded,
    ⟨text, target, place, placeFile, by rw [path_eq]; exact sourceLine, directive, ?_, ?_⟩,
    atLine⟩
  · rw [path_eq, Location.location_path]
    exact leads.regular
  · rw [course.paths_eq]
    exact List.mem_map_of_mem known

include course in
/-- As many lines are recorded as the unit has. -/
theorem totalLines_eq : resolution.provenance.totalLines = resolution.unit.lines.length := by
  rw [course.records.totalLines_eq, course.unit_lines_eq, List.length_map, List.length_map]

include course in
/-- A line of code of a contributor is a line of the unit. -/
theorem exists_own {index localLine : Nat} {contributor : Contributor} {text : String}
    (recorded : resolution.provenance.contributors[index]? = some contributor)
    (sourceLine : workspace.sourceLine? contributor.path localLine = some text)
    (isCode : SourceLine.classify text = .code) :
    ∃ line, resolution.provenance.attribution line = .own ⟨index, contributor, localLine⟩ ∧
      resolution.unit.line? line = some text := by
  obtain ⟨location, here, path_eq⟩ := course.path_of_contributor recorded
  rw [path_eq] at sourceLine
  have made : (Origin.own index localLine, text) ∈ workspace.linesFrom 0 course.opened :=
    mem_linesFrom_zero_iff.2 ⟨index, location, (text, localLine), here,
      mem_numberedSource_iff.2 sourceLine, Origin.ofLine?_own_iff.2 ⟨rfl, rfl, isCode⟩⟩
  obtain ⟨line, atLine⟩ := exists_atLine?_of_mem (course.mem_lines_of_own made)
  refine ⟨line, course.records.attribution_own_iff.2 ⟨recorded, ?_⟩, ?_⟩
  · rw [atLine?_map, atLine]
    rfl
  · rw [FlatUnit.line?_eq, course.unit_lines_eq, atLine?_map, atLine]
    rfl

include course in
/-- A line of a unit is told by its origin. -/
theorem attribution_own_inj {first second : Nat} {place : Place}
    (atFirst : resolution.provenance.attribution first = .own place)
    (atSecond : resolution.provenance.attribution second = .own place) : first = second :=
  atLine?_inj course.nodup_origins (course.records.attribution_own_iff.1 atFirst).2
    (course.records.attribution_own_iff.1 atSecond).2

include course in
/-- A directive is enclosed by one line only. -/
theorem attribution_enclosing_inj {first second : Nat} {place : Place}
    (atFirst : resolution.provenance.attribution first = .enclosing place)
    (atSecond : resolution.provenance.attribution second = .enclosing place) : first = second :=
  atLine?_inj course.nodup_origins (course.records.attribution_enclosing_iff.1 atFirst).2
    (course.records.attribution_enclosing_iff.1 atSecond).2

end Workspace.Course

/-- Each line of a resolved unit is attributed to one line of one of its files, and each
line of code of its files is one line of the unit, however many lines there are. -/
theorem Workspace.attributesLines_of_resolve {workspace : Workspace} {entry : Path}
    {limits : ResolutionLimits} {resolution : Resolution}
    (resolved : workspace.resolve entry limits = .ok resolution) :
    workspace.AttributesLines resolution := by
  obtain ⟨course⟩ := resolve_ok_iff.1 resolved
  have total : resolution.provenance.totalLines =
      ((Emission.lines course.trace).map Prod.fst).length := course.records.totalLines_eq
  refine ⟨?_, ?_, ?_, ?_, ?_, ?_, course.directives_eq⟩
  · exact course.totalLines_eq.symm
  · intro contributor member
    obtain ⟨index, atIndex⟩ := List.mem_iff_getElem?.1 member
    obtain ⟨location, here, path_eq⟩ := course.path_of_contributor atIndex
    obtain ⟨file, text, present, isText, -⟩ := course.served (List.mem_of_getElem? here)
    exact ⟨location, file, text, path_eq, present, isText⟩
  · intro line first last
    obtain ⟨origin, here⟩ := Option.isSome_iff_exists.1
      (atLine?_isSome_iff.2 ⟨first, Nat.le_trans last (Nat.le_of_eq total)⟩)
    cases origin with
    | own index localLine =>
      obtain ⟨contributor, attributed, owned⟩ := course.ownedLine here
      exact .inl ⟨_, attributed, owned⟩
    | repeated index localLine =>
      obtain ⟨contributor, attributed, blank⟩ := course.blankLine here
      exact .inr ⟨_, attributed, blank⟩
  · intro line outside
    exact course.records.attribution_unresolved_iff.2 outside
  · intro index contributor localLine text recorded sourceLine isCode
    obtain ⟨line, owned, -⟩ := course.exists_own recorded sourceLine isCode
    exact ⟨line, owned, fun other otherOwned => course.attribution_own_inj otherOwned owned⟩
  · intro first second place atFirst atSecond
    exact course.attribution_enclosing_inj atFirst atSecond

/-- Files that include each other: five lines, two of them blank, from three files. -/
theorem Workspace.attributesLines_entangled : ∃ resolution,
    entangled.resolve ⟨"top"⟩ .standard = .ok resolution ∧
      resolution.unit.lines = ["y", "", "z", "x", ""] ∧
      entangled.AttributesLines resolution := by
  have lines : (entangled.resolve ⟨"top"⟩ .standard).toOption.map (·.unit.lines) =
      some ["y", "", "z", "x", ""] := by decide +kernel
  cases resolved : entangled.resolve ⟨"top"⟩ .standard with
  | error => simp [resolved, Except.toOption] at lines
  | ok resolution =>
    rw [resolved] at lines
    exact ⟨resolution, rfl, Option.some.inj lines, attributesLines_of_resolve resolved⟩

end LiveShader
