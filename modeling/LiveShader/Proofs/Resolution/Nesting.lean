import LiveShader.Proofs.Resolution.Closure
import LiveShader.Proofs.Resolution.Coverage

/-!
# How deep the files of a unit stand

The entry stands at level 0, and every other file one level below the file whose directive
it was opened for. Which directive that was is told by the unit itself: the one that leads
to the file and left no placeholder (`OpenedBy`). The account of an unlimited expansion
has the same levels (`Course.nested_iff`).
-/

namespace LiveShader

namespace Workspace

variable (workspace : Workspace)

/-- A directive of one contributor is what another one was opened for: it leads to the
file, and no placeholder stands for it. -/
structure OpenedBy (resolution : Resolution) (includer localLine child : Nat) : Prop where
  leads : ∃ source target text directive place file,
    resolution.provenance.contributors[includer]? = some source ∧
      resolution.provenance.contributors[child]? = some target ∧
      workspace.sourceLine? source.path localLine = some text ∧
      SourceLine.classify text = .inclusion directive ∧
      workspace.regular? (source.path.location.beside directive) = some (place, file) ∧
      target.path = place.path
  unmarked : ∀ placeholder ∈ resolution.provenance.placeholders,
    placeholder.contributor = includer → placeholder.localLine ≠ localLine

/-- A contributor stands so deep below the entry. -/
inductive Nested (resolution : Resolution) : Nat → Nat → Prop where
  | entry : Nested resolution 0 0
  | inner {includer localLine child depth} (outer : Nested resolution includer depth)
      (openedBy : workspace.OpenedBy resolution includer localLine child) :
      Nested resolution child (depth + 1)

end Workspace

/-- An item of a list stays where it is when the list grows. -/
theorem getElem?_append_of_eq_some {α : Type} {first : List α} {index : Nat} {item : α}
    (here : first[index]? = some item) (second : List α) :
    (first ++ second)[index]? = some item := by
  rw [List.getElem?_append_left (List.getElem?_eq_some_iff.1 here).1]
  exact here

namespace Opening

/-- The levels of all contributors, the entry first. -/
def levels (openings : List Opening) : List Nat :=
  0 :: openings.map Opening.depth

/-- The levels of openings are those of the first ones, and then the depths of the others. -/
theorem levels_append (first second : List Opening) :
    levels (first ++ second) = levels first ++ second.map Opening.depth := by
  rw [levels, List.map_append]
  rfl

/-- The level of an opened file is the depth of its opening; the entry alone comes before it. -/
theorem levels_succ_iff {openings : List Opening} {index depth : Nat} :
    (levels openings)[index + 1]? = some depth ↔
      ∃ opening, openings[index]? = some opening ∧ opening.depth = depth := by
  rw [levels, List.getElem?_cons_succ, List.getElem?_map, Option.map_eq_some_iff]

/-- A level stays what it is when more files are opened. -/
theorem levels_mono {first : List Opening} {index depth : Nat}
    (level : (levels first)[index]? = some depth) (second : List Opening) :
    (levels (first ++ second))[index]? = some depth := by
  rw [levels_append]
  exact getElem?_append_of_eq_some level _

end Opening

namespace Workspace

variable {workspace : Workspace}

/-! ## Every file has its place below an earlier one -/

/-- The file at an index was opened for a directive of an earlier one, one level above. -/
structure Rooted (workspace : Workspace) (places : List Location) (openings : List Opening)
    (index : Nat) (opening : Opening) : Prop where
  earlier : opening.contributor ≤ index
  level : ∃ depth, (Opening.levels openings)[opening.contributor]? = some depth ∧
    opening.depth = depth + 1
  leads : ∃ source text target place file, places[opening.contributor]? = some source ∧
    (text, opening.localLine) ∈ workspace.numberedSource source ∧
    SourceLine.classify text = .inclusion target ∧ places[index + 1]? = some place ∧
    workspace.regular? (source.beside target) = some (place, file)

/-- Each place but the first has its opening, and each opening is rooted. -/
structure AllRooted (workspace : Workspace) (places : List Location)
    (openings : List Opening) : Prop where
  length_eq : places.length = openings.length + 1
  rooted : ∀ index opening, openings[index]? = some opening →
    workspace.Rooted places openings index opening

variable {places : List Location} {openings : List Opening} {location place : Location}
  {index line depth : Nat}

/-- An opening that is rooted stays so where more is opened. -/
theorem Rooted.mono {opening : Opening}
    (rooted : workspace.Rooted places openings index opening) (morePlaces : List Location)
    (moreOpenings : List Opening) :
    workspace.Rooted (places ++ morePlaces) (openings ++ moreOpenings) index opening := by
  obtain ⟨earlier, ⟨depth, level, depth_eq⟩, source, text, target, place, file, atSource, member,
    directive, atPlace, leads⟩ := rooted
  exact ⟨earlier, ⟨depth, Opening.levels_mono level _, depth_eq⟩, source, text, target, place,
    file, getElem?_append_of_eq_some atSource _, member, directive,
    getElem?_append_of_eq_some atPlace _, leads⟩

/-- The entry alone is rooted: nothing was opened for a directive yet. -/
theorem allRooted_entry (location : Location) : workspace.AllRooted [location] [] :=
  ⟨rfl, by simp⟩

/-- One more file, opened for a directive of a file that is there, one level below it. -/
theorem AllRooted.concat {text target : String} {file : File}
    (allRooted : workspace.AllRooted places openings) (here : places[index]? = some location)
    (level : (Opening.levels openings)[index]? = some depth)
    (member : (text, line) ∈ workspace.numberedSource location)
    (directive : SourceLine.classify text = .inclusion target)
    (leads : workspace.regular? (location.beside target) = some (place, file)) :
    workspace.AllRooted (places ++ [place]) (openings ++ [⟨index, line, depth + 1⟩]) := by
  have length_eq := allRooted.length_eq
  have inside := (List.getElem?_eq_some_iff.1 here).1
  refine ⟨by simp [length_eq], fun position opening atPosition => ?_⟩
  by_cases isOld : position < openings.length
  · rw [List.getElem?_append_left isOld] at atPosition
    exact (allRooted.rooted position opening atPosition).mono _ _
  · have isLast : position = openings.length := by
      have bound := (List.getElem?_eq_some_iff.1 atPosition).1
      rw [List.length_append, List.length_singleton] at bound
      omega
    rw [isLast, List.getElem?_concat_length, Option.some.injEq] at atPosition
    subst isLast atPosition
    refine ⟨?_, ⟨depth, Opening.levels_mono level _, rfl⟩, location, text, target, place, file,
      getElem?_append_of_eq_some here _, member, directive, ?_, leads⟩
    · change index ≤ openings.length
      omega
    · rw [← length_eq, List.getElem?_concat_length]

/-- The file that was opened last stands at the level of its opening. -/
theorem AllRooted.level_last {opening : Opening}
    (allRooted : workspace.AllRooted (places ++ [place]) (openings ++ [opening])) :
    (Opening.levels (openings ++ [opening]))[places.length]? = some opening.depth := by
  have length_eq := allRooted.length_eq
  rw [List.length_append, List.length_append, List.length_singleton, List.length_singleton,
    Nat.add_right_cancel_iff] at length_eq
  rw [length_eq, Opening.levels_succ_iff, List.getElem?_concat_length]
  exact ⟨opening, rfl, rfl⟩

/-- An expansion keeps all files rooted. -/
theorem Descends.allRooted {opened : List Location} {remaining : List (String × Nat)}
    {emissions : List Emission} {halt : Option Halt} {before : List Opening}
    (descends : workspace.Descends depth location index opened remaining emissions openings halt)
    (allRooted : workspace.AllRooted opened before) (here : opened[index]? = some location)
    (level : (Opening.levels before)[index]? = some depth)
    (lines : ∀ numbered ∈ remaining, numbered ∈ workspace.numberedSource location) :
    workspace.AllRooted (opened ++ Emission.locations emissions) (before ++ openings) := by
  induction descends generalizing before with
  | done | malformed | missing | overlong => simpa using allRooted
  | code isCode later inductionHypothesis =>
    exact inductionHypothesis allRooted here level (List.forall_mem_cons.1 lines).2
  | repeated directive leads known later inductionHypothesis =>
    exact inductionHypothesis allRooted here level (List.forall_mem_cons.1 lines).2
  | expanded directive leads fresh isText inside later insideHypothesis laterHypothesis =>
    obtain ⟨atLine, rest⟩ := List.forall_mem_cons.1 lines
    have openedNow := allRooted.concat here level atLine directive leads.regular
    have descended := insideHypothesis openedNow List.getElem?_concat_length openedNow.level_last
      (fun numbered member => by rwa [numberedSource_eq leads.present isText])
    -- The lines behind the directive belong to the same file, at the same level.
    have after := laterHypothesis (by simpa using descended) (getElem?_append_of_eq_some here _)
      (Opening.levels_mono level _) rest
    simpa using after
  | unreadable directive leads fresh notText =>
    exact allRooted.concat here level (List.forall_mem_cons.1 lines).1 directive
      leads.regular
  | stopped directive leads fresh isText inside insideHypothesis =>
    have openedNow := allRooted.concat here level (List.forall_mem_cons.1 lines).1 directive
      leads.regular
    have descended := insideHypothesis openedNow List.getElem?_concat_length openedNow.level_last
      (fun numbered member => by rwa [numberedSource_eq leads.present isText])
    simpa using descended

/-! ## The unit tells its levels -/

namespace Course

variable {limits : ResolutionLimits} {entry : Path} {resolution : Resolution}
  {course : workspace.Course entry limits resolution} {includer localLine child : Nat}

/-- The openings of a unit are rooted in the files that it opened. -/
theorem Accounts.allRooted (accounts : course.Accounts openings) :
    workspace.AllRooted course.opened openings := by
  have rooted := Descends.allRooted accounts (allRooted_entry course.location) rfl rfl
    fun numbered member => by rwa [numberedSource_eq course.file?_location course.isText]
  exact rooted

/-- Each file of a unit but the entry has its opening. -/
theorem Accounts.size_eq (accounts : course.Accounts openings) :
    resolution.provenance.size = openings.length + 1 := by
  rw [Provenance.size, course.length_contributors]
  exact accounts.length_opened

/-- A directive is of an opening, or a placeholder stands for it. -/
theorem Accounts.opening_or_placeholder (accounts : course.Accounts openings)
    {source : Location} {text target : String} (atSource : course.opened[includer]? = some source)
    (member : (text, localLine) ∈ workspace.numberedSource source)
    (directive : SourceLine.classify text = .inclusion target) :
    (∃ opening ∈ openings, opening.contributor = includer ∧ opening.localLine = localLine) ∨
      ∃ placeholder ∈ resolution.provenance.placeholders,
        placeholder.contributor = includer ∧ placeholder.localLine = localLine := by
  have becomes : Origin.ofLine? includer (text, localLine) =
      some (.repeated includer localLine, "") :=
    Origin.ofLine?_repeated_iff.2 ⟨rfl, rfl, rfl, target, directive⟩
  have isLine := mem_linesFrom_zero_iff.2 ⟨includer, source, _, atSource, member, becomes⟩
  rcases List.mem_append.1 (accounts.covers.symm.subset isLine) with inUnit | isOpening
  · obtain ⟨line, atLine⟩ := exists_atLine?_of_mem (List.mem_map_of_mem (f := Prod.fst) inUnit)
    refine .inr ⟨⟨line, includer, localLine⟩, ?_, rfl, rfl⟩
    rw [course.records.placeholders_eq]
    exact Origin.mem_placeholders_iff.2 atLine
  · obtain ⟨opening, openingMember, blank_eq⟩ := List.mem_map.1 isOpening
    obtain ⟨sameIncluder, sameLine⟩ := Origin.repeated.inj (Prod.mk.inj blank_eq).1
    exact .inl ⟨opening, openingMember, sameIncluder, sameLine⟩

/-- No placeholder stands for the directive of an opening. -/
theorem Accounts.unmarked (accounts : course.Accounts openings) {opening : Opening}
    (member : opening ∈ openings) :
    ∀ placeholder ∈ resolution.provenance.placeholders,
      placeholder.contributor = opening.contributor →
        placeholder.localLine ≠ opening.localLine := by
  intro placeholder placeholderMember sameIncluder sameLine
  have disjoint := (List.nodup_append'.1 accounts.nodup_origins).2.2
  rw [course.records.placeholders_eq, Origin.mem_placeholders_iff, sameIncluder, sameLine]
    at placeholderMember
  exact disjoint (mem_of_atLine? placeholderMember)
    (List.mem_map_of_mem (List.mem_map_of_mem member))

/-- A directive leads to the file that the account opens for it, and to no other. -/
theorem Accounts.openedBy_iff (accounts : course.Accounts openings) :
    workspace.OpenedBy resolution includer localLine child ↔
      ∃ index opening, child = index + 1 ∧ openings[index]? = some opening ∧
        opening.contributor = includer ∧ opening.localLine = localLine := by
  constructor
  · rintro ⟨⟨source, target, text, directive, place, file, recorded, childRecorded, sourceLine,
      isDirective, leads, target_eq⟩, unmarked⟩
    obtain ⟨location, atSource, source_eq⟩ := course.path_of_contributor recorded
    obtain ⟨childPlace, atChild, child_eq⟩ := course.path_of_contributor childRecorded
    obtain rfl : childPlace = place := Location.path_injective (child_eq.symm.trans target_eq)
    rw [source_eq] at sourceLine leads
    rw [Location.location_path] at leads
    rcases accounts.opening_or_placeholder atSource (mem_numberedSource_iff.2 sourceLine)
      isDirective with ⟨opening, member, rfl, rfl⟩ | ⟨placeholder, member, sameIncluder, sameLine⟩
    · obtain ⟨index, atIndex⟩ := List.mem_iff_getElem?.1 member
      obtain ⟨-, -, other, otherText, otherTarget, otherPlace, otherFile, atOther, otherMember,
        otherDirective, atPlace, otherLeads⟩ := accounts.allRooted.rooted index opening atIndex
      -- The line of a file is one line, and it leads to one place, which was opened once.
      obtain rfl := Option.some.inj (atSource.symm.trans atOther)
      obtain rfl := Option.some.inj
        (sourceLine.symm.trans (mem_numberedSource_iff.1 otherMember))
      obtain rfl := SourceLine.inclusion.inj (isDirective.symm.trans otherDirective)
      obtain ⟨rfl, -⟩ := Prod.mk.inj (Option.some.inj (leads.symm.trans otherLeads))
      have inside := (List.getElem?_eq_some_iff.1 atChild).1
      have child_eq := (List.getElem?_inj inside course.nodup_opened).1
        (atChild.trans atPlace.symm)
      exact ⟨index, opening, child_eq, atIndex, rfl, rfl⟩
    · exact absurd sameLine (unmarked placeholder member sameIncluder)
  · rintro ⟨index, opening, rfl, atIndex, rfl, rfl⟩
    obtain ⟨-, -, source, text, target, place, file, atSource, member, directive, atPlace, leads⟩ :=
      accounts.allRooted.rooted index opening atIndex
    obtain ⟨contributor, recorded, path_eq⟩ := course.contributor_of_opened atSource
    obtain ⟨childContributor, childRecorded, child_eq⟩ := course.contributor_of_opened atPlace
    refine ⟨⟨contributor, childContributor, text, target, place, file, recorded, childRecorded, ?_,
      directive, ?_, child_eq⟩, accounts.unmarked (List.mem_of_getElem? atIndex)⟩
    · rw [path_eq]
      exact mem_numberedSource_iff.1 member
    · rw [path_eq, Location.location_path]
      exact leads

/-- The levels of a unit are those of its account. -/
theorem Accounts.nested_iff (accounts : course.Accounts openings) :
    workspace.Nested resolution index depth ↔ (Opening.levels openings)[index]? = some depth := by
  constructor
  · intro nested
    induction nested with
    | entry => rfl
    | inner outer openedBy inductionHypothesis =>
      obtain ⟨index, opening, rfl, atIndex, rfl, rfl⟩ := accounts.openedBy_iff.1 openedBy
      obtain ⟨depth, level, depth_eq⟩ := (accounts.allRooted.rooted index opening atIndex).level
      obtain rfl := Option.some.inj (inductionHypothesis.symm.trans level)
      exact Opening.levels_succ_iff.2 ⟨opening, atIndex, depth_eq⟩
  · intro level
    -- The includer of a file stands before it.
    induction index using Nat.strongRecOn generalizing depth with
    | ind index earlier =>
      cases index with
      | zero =>
        obtain rfl := Option.some.inj level
        exact .entry
      | succ index =>
        obtain ⟨opening, atIndex, rfl⟩ := Opening.levels_succ_iff.1 level
        obtain ⟨includer_le, ⟨depth, above, depth_eq⟩, -⟩ :=
          accounts.allRooted.rooted index opening atIndex
        rw [depth_eq]
        exact .inner (earlier opening.contributor (Nat.lt_succ_of_le includer_le) above)
          (accounts.openedBy_iff.2 ⟨index, opening, rfl, atIndex, rfl, rfl⟩)

end Course

/-- Each file of a resolution stands at one level. -/
theorem existsUnique_nested {entry : Path} {limits : ResolutionLimits} {resolution : Resolution}
    (resolved : workspace.resolve entry limits = .ok resolution)
    (inside : index < resolution.provenance.size) :
    ∃! depth, workspace.Nested resolution index depth := by
  obtain ⟨course⟩ := resolve_ok_iff.1 resolved
  obtain ⟨openings, accounts⟩ := course.exists_accounts
  have bound : index < (Opening.levels openings).length := by
    rw [Opening.levels, List.length_cons, List.length_map, ← accounts.size_eq]
    exact inside
  refine ⟨_, accounts.nested_iff.2 (List.getElem?_eq_getElem bound), fun depth nested => ?_⟩
  have level := accounts.nested_iff.1 nested
  rw [List.getElem?_eq_getElem bound] at level
  exact (Option.some.inj level).symm

end Workspace

end LiveShader
