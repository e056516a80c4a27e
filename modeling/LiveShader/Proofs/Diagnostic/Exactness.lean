import LiveShader.Proofs.Diagnostic.Flagged
import LiveShader.Proofs.Resolution.Attribution
import LiveShader.Proofs.Shader.Build

/-!
# Reports name exactly the flagged lines of code

A compiler that complains about each flagged line of its source, and counts its lines by
line feeds, leads to a report that names each flagged line of code of each file once, in
the order of the unit.
-/

namespace LiveShader

namespace Workspace

variable {workspace : Workspace} {limits : ResolutionLimits} {entry : Path}
  {resolution : Resolution}

namespace Course

variable (course : workspace.Course entry limits resolution)

include course in
/-- A compiler that reads line feeds sees the lines of the unit, and one empty piece. -/
theorem flaggedNumbers_feeds {flagged : String → Bool} (blank : flagged "" = false) :
    flaggedNumbers flagged (Text.feeds resolution.unit.text) =
      flaggedNumbers flagged resolution.unit.lines := by
  rw [FlatUnit.text, Text.feeds_unlines course.areLines, flaggedNumbers_concat blank]

include course in
/-- A flagged line of a unit is a line of code. -/
theorem owned_of_flagged {flagged : String → Bool} (blank : flagged "" = false) {line : Nat}
    (member : line ∈ flaggedNumbers flagged resolution.unit.lines) :
    ∃ place text, resolution.provenance.attribution line = .own place ∧
      resolution.provenance.contributors[place.index]? = some place.contributor ∧
      workspace.sourceLine? place.contributor.path place.localLine = some text ∧
      SourceLine.classify text = .code ∧ flagged text = true := by
  obtain ⟨text, atLine, isFlagged⟩ := mem_flaggedNumbers_iff.1 member
  have atOrigin := atLine
  rw [course.unit_lines_eq, atLine?_map, Option.map_eq_some_iff] at atOrigin
  obtain ⟨⟨origin, _⟩, here, rfl⟩ := atOrigin
  have originHere : atLine? ((Emission.lines course.trace).map Prod.fst) line = some origin := by
    rw [atLine?_map, here]
    rfl
  cases origin with
  | own index localLine =>
    obtain ⟨contributor, attributed, recorded, other, sourceLine, isCode, atOther⟩ :=
      course.ownedLine originHere
    obtain rfl := Option.some.inj (atLine.symm.trans atOther)
    exact ⟨_, _, attributed, recorded, sourceLine, isCode, isFlagged⟩
  | repeated index localLine =>
    obtain ⟨contributor, -, -, -, isBlank⟩ := course.blankLine originHere
    have empty := Option.some.inj (atLine.symm.trans isBlank)
    simp only at empty isFlagged
    rw [empty, blank] at isFlagged
    cases isFlagged

include course in
/-- The file and the local line tell the line of a unit. -/
theorem line_unique {first second : Nat} {place other : Place}
    (atFirst : resolution.provenance.attribution first = .own place)
    (atSecond : resolution.provenance.attribution second = .own other)
    (path_eq : place.contributor.path = other.contributor.path)
    (localLine_eq : place.localLine = other.localLine) : first = second := by
  obtain ⟨recorded, -⟩ := course.records.attribution_own_iff.1 atFirst
  obtain ⟨otherRecorded, -⟩ := course.records.attribution_own_iff.1 atSecond
  obtain ⟨location, here, isPath⟩ := course.path_of_contributor recorded
  obtain ⟨otherLocation, there, isOtherPath⟩ := course.path_of_contributor otherRecorded
  rw [isPath, isOtherPath, Location.path_inj] at path_eq
  have inside := (List.getElem?_eq_some_iff.1 here).1
  have index_eq := (List.getElem?_inj inside course.nodup_opened).1
    (here.trans (path_eq ▸ there.symm))
  rw [← index_eq, recorded] at otherRecorded
  have same : place = other := by
    obtain ⟨index, contributor, localLine⟩ := place
    obtain ⟨otherIndex, otherContributor, otherLine⟩ := other
    obtain rfl : index = otherIndex := index_eq
    obtain rfl : localLine = otherLine := localLine_eq
    obtain rfl : contributor = otherContributor := Option.some.inj otherRecorded
    rfl
  exact course.attribution_own_inj atFirst (same ▸ atSecond)

end Course

/-- A line of code of a contributor is flagged. -/
def FlaggedLine (workspace : Workspace) (resolution : Resolution) (flagged : String → Bool)
    (path : Path) (localLine : Nat) : Prop :=
  path ∈ resolution.provenance.contributors.map Contributor.path ∧
    ∃ text, workspace.sourceLine? path localLine = some text ∧
      SourceLine.classify text = .code ∧ flagged text = true

end Workspace

/-- The report names exactly the flagged lines of code, each once, in the order of the unit. -/
structure Report.NamesFlagged (report : Report) (workspace : Workspace)
    (resolution : Resolution) (flagged : String → Bool) : Prop where
  unresolved_eq : report.unresolved = []
  mem_iff : ∀ path localLine, (path, localLine) ∈ report.diagnostics.map Diagnostic.position ↔
    workspace.FlaggedLine resolution flagged path localLine
  nodup : (report.diagnostics.map Diagnostic.position).Nodup
  ordered : ∃ lines : List Nat, lines.Pairwise (· < ·) ∧
    List.Forall₂ resolution.provenance.OwnedAt lines
      (report.diagnostics.map Diagnostic.position)

/-- What is related to members of a list are the members of a list related to it. -/
theorem mem_right_iff_of_forall₂ {α β : Type} {relation : α → β → Prop} {left : List α}
    {right : List β} (unique : Relator.RightUnique relation)
    (related : List.Forall₂ relation left right) {second : β} :
    second ∈ right ↔ ∃ first ∈ left, relation first second := by
  have length_eq := related.length_eq
  constructor
  · intro member
    obtain ⟨index, inside, rfl⟩ := List.getElem_of_mem member
    exact ⟨left[index], List.getElem_mem _, related.get (length_eq ▸ inside) inside⟩
  · rintro ⟨first, member, here⟩
    obtain ⟨index, inside, rfl⟩ := List.getElem_of_mem member
    exact unique here (related.get inside (length_eq ▸ inside)) ▸ List.getElem_mem _

namespace Workspace

variable {workspace : Workspace} {limits : ResolutionLimits} {entry : Path}
  {resolution : Resolution} {flagged : String → Bool}

namespace Course

variable (course : workspace.Course entry limits resolution)

include course in
/-- Lines of a unit that come from files correspond to positions one to one. -/
theorem biUnique_ownedAt : Relator.BiUnique resolution.provenance.OwnedAt := by
  constructor
  · rintro first position second ⟨place, attributed, rfl⟩ ⟨other, otherAttributed, position_eq⟩
    obtain ⟨path_eq, localLine_eq⟩ := Prod.mk.inj position_eq
    exact course.line_unique attributed otherAttributed path_eq localLine_eq
  · rintro line first second ⟨place, attributed, rfl⟩ ⟨other, otherAttributed, rfl⟩
    obtain rfl := Attribution.own.inj (attributed.symm.trans otherAttributed)
    rfl

include course in
/-- The flagged lines of a unit are the flagged lines of code of its files. -/
theorem flaggedLine_iff (blank : flagged "" = false) (path : Path) (localLine : Nat) :
    workspace.FlaggedLine resolution flagged path localLine ↔
      ∃ line ∈ flaggedNumbers flagged resolution.unit.lines,
        resolution.provenance.OwnedAt line (path, localLine) := by
  constructor
  · rintro ⟨pathMember, text, sourceLine, isCode, isFlagged⟩
    obtain ⟨contributor, member, rfl⟩ := List.mem_map.1 pathMember
    obtain ⟨index, recorded⟩ := List.mem_iff_getElem?.1 member
    obtain ⟨line, attributed, atLine⟩ := course.exists_own recorded sourceLine isCode
    exact ⟨line, mem_flaggedNumbers_iff.2 ⟨text, atLine, isFlagged⟩, _, attributed, rfl⟩
  · rintro ⟨line, member, place, attributed, position_eq⟩
    obtain ⟨rfl, rfl⟩ := Prod.mk.inj position_eq
    obtain ⟨other, text, otherAttributed, recorded, sourceLine, isCode, isFlagged⟩ :=
      course.owned_of_flagged blank member
    obtain rfl := Attribution.own.inj (attributed.symm.trans otherAttributed)
    exact ⟨List.mem_map_of_mem (List.mem_of_getElem? recorded), text, sourceLine, isCode,
      isFlagged⟩

include course in
/-- No line of a unit is flagged exactly if no line of its files is. -/
theorem flaggedNumbers_lines_eq_nil_iff (blank : flagged "" = false) :
    flaggedNumbers flagged resolution.unit.lines = [] ↔
      ∀ path localLine, ¬ workspace.FlaggedLine resolution flagged path localLine := by
  simp only [course.flaggedLine_iff blank]
  constructor
  · intro none path localLine owned
    simp [none] at owned
  · intro none
    refine List.eq_nil_iff_forall_not_mem.2 fun line member => ?_
    obtain ⟨place, text, attributed, -⟩ := course.owned_of_flagged blank member
    exact none _ _ ⟨line, member, place, attributed, rfl⟩

include course in
/-- A report whose diagnostics are where the flagged lines of a unit come from names exactly
the flagged lines of code of its files. -/
theorem namesFlagged (blank : flagged "" = false) {report : Report}
    (unresolved : report.unresolved = [])
    (positions : List.Forall₂ resolution.provenance.OwnedAt
      (flaggedNumbers flagged resolution.unit.lines)
      (report.diagnostics.map Diagnostic.position)) :
    report.NamesFlagged workspace resolution flagged := by
  have unique := course.biUnique_ownedAt
  have increasing := pairwise_flaggedNumbers flagged resolution.unit.lines
  refine ⟨unresolved, fun path localLine => ?_, ?_, _, increasing, positions⟩
  · rw [course.flaggedLine_iff blank, mem_right_iff_of_forall₂ unique.2 positions]
  · exact (List.rel_nodup unique positions).1 (increasing.imp Nat.ne_of_lt)

end Course

/-- A build with a compiler that flags lines succeeds exactly if no line of code is
flagged. Otherwise its report names exactly the flagged lines of code. -/
theorem build_flags {State Compiled Program : Type} {compiler : Compiler State Compiled Program}
    (resolved : workspace.resolve entry limits = .ok resolution)
    (few : resolution.provenance.totalLines < Text.lineBound - 1) (blank : flagged "" = false)
    (flags : compiler.Flags flagged) (state : State) (stage : Stage) :
    ((∃ build, (workspace.build compiler state entry stage limits .paren).result = .ok build) ↔
        ∀ path localLine, ¬ workspace.FlaggedLine resolution flagged path localLine) ∧
      ∀ failure, (workspace.build compiler state entry stage limits .paren).result =
        .error failure →
          ∃ report, failure = .compile resolution report ∧
            report.NamesFlagged workspace resolution flagged := by
  obtain ⟨course⟩ := resolve_ok_iff.1 resolved
  have none_iff := course.flaggedNumbers_lines_eq_nil_iff blank
  have pieces := course.flaggedNumbers_feeds blank
  rw [← none_iff, build_of_resolve compiler resolved]
  by_cases none : flaggedNumbers flagged resolution.unit.lines = []
  · obtain ⟨compiled, accepted⟩ := flags.accepts state _ stage (pieces.trans none)
    rw [accepted]
    exact ⟨iff_of_true ⟨_, rfl⟩ none, fun failure failed => by cases failed⟩
  · obtain ⟨raw, message, refused, isOutput⟩ :=
      flags.complains state _ stage (fun empty => none (pieces.symm.trans empty))
    rw [pieces] at isOutput
    have owned : ∀ line ∈ flaggedNumbers flagged resolution.unit.lines, line ≠ 0 ∧
        line < Text.lineBound ∧ ∃ place, resolution.provenance.attribution line = .own place := by
      intro line member
      obtain ⟨text, atLine, -⟩ := mem_flaggedNumbers_iff.1 member
      obtain ⟨first, last⟩ := atLine?_isSome_iff.1 (Option.isSome_iff_exists.2 ⟨text, atLine⟩)
      obtain ⟨place, -, attributed, -⟩ := course.owned_of_flagged blank member
      have total := course.totalLines_eq
      exact ⟨by omega, by omega, place, attributed⟩
    obtain ⟨unresolved, positions⟩ :=
      Report.ofOutput_owned (forall₂_lines isOutput (forall₂_isOn _ message)) owned
    rw [refused]
    refine ⟨iff_of_false (fun ⟨_, impossible⟩ => by cases impossible) none, ?_⟩
    intro failure failed
    exact ⟨_, (Except.error.inj failed).symm, course.namesFlagged blank unresolved positions⟩

/-- Where `x` and `z` are flagged, the report names them where they were written. -/
theorem build_flags_entangled : ∃ resolution report,
    (entangled.build (.flagging fun text => text == "x" || text == "z") () ⟨"top"⟩ .vertex .standard
        .paren).result = .error (.compile resolution report) ∧
      report.diagnostics.map
          (fun diagnostic => (diagnostic.sourceFile.text, diagnostic.localLine)) =
        [("/d/low", 4), ("/top", 2)] ∧
      report.NamesFlagged entangled resolution fun text => text == "x" || text == "z" := by
  have positions : (match (entangled.build (.flagging fun text => text == "x" || text == "z") ()
        ⟨"top"⟩ .vertex .standard .paren).result with
      | .error (.compile _ report) => some (report.diagnostics.map fun diagnostic =>
          (diagnostic.sourceFile.text, diagnostic.localLine))
      | _ => none) = some [("/d/low", 4), ("/top", 2)] := by decide +kernel
  have total : (entangled.resolve ⟨"top"⟩ .standard).toOption.map (·.provenance.totalLines) =
      some 5 := by decide +kernel
  cases resolved : entangled.resolve ⟨"top"⟩ .standard with
  | error => simp [resolved, Except.toOption] at total
  | ok resolution =>
    rw [resolved] at total
    have five : resolution.provenance.totalLines = 5 := Option.some.inj total
    obtain ⟨-, reports⟩ := build_flags resolved (by rw [five]; decide) (by decide)
      (Compiler.flagging_flags fun text => text == "x" || text == "z") () .vertex
    cases result : (entangled.build (.flagging fun text => text == "x" || text == "z") ()
        ⟨"top"⟩ .vertex .standard .paren).result with
    | ok =>
      rw [result] at positions
      cases positions
    | error failure =>
      obtain ⟨report, rfl, names⟩ := reports failure result
      rw [result] at positions
      exact ⟨resolution, report, rfl, Option.some.inj positions, names⟩

end Workspace

end LiveShader
