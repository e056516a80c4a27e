import LiveShader.Proofs.Provenance.Canonical
import LiveShader.Proofs.Resolution.Attribution
import LiveShader.Proofs.Resolution.Laminarity

/-!
# Resolved units have canonical segments

An expansion goes through a file from its first line to its last, whatever files it opens in
between. So the lines of a unit that are blamed on one file have increasing numbers in that
file (`Unfolds.increasing`), and the segments of the file increase in both coordinates.
-/

namespace LiveShader

/-- Of two lines of one file, the earlier one comes first in the file. -/
def Origin.Increases (first second : Origin × String) : Prop :=
  first.1.contributor = second.1.contributor → first.1.localLine < second.1.localLine

namespace Workspace

variable {workspace : Workspace} {limits : ResolutionLimits} {nesting index : Nat}
  {location : Location} {opened : List Location} {remaining : List (String × Nat)}
  {emissions : List Emission} {halt : Option Halt}

/-- The numbers of lines increase. -/
theorem pairwise_numberedLines (text : String) :
    (numberedLines text).Pairwise fun first second => first.2 < second.2 := by
  have numbers : ((numberedLines text).map Prod.snd).Pairwise (· < ·) := by
    rw [numberedLines, List.zipIdx_map_snd]
    exact List.pairwise_lt_range' 1
  exact List.pairwise_map.1 numbers

/-- The contributor of a line is blamed for it. -/
theorem mem_blamed {made : Origin × String} (member : made ∈ Emission.lines emissions) :
    made.1.contributor ∈ Emission.blamed emissions :=
  List.mem_map_of_mem member

/-- What is blamed on the file whose lines are expanded has the number of one of these lines. -/
theorem Unfolds.localLine_mem
    (unfolds : workspace.Unfolds limits nesting location index opened remaining emissions halt)
    (inside : index < opened.length) {made : Origin × String}
    (member : made ∈ Emission.lines emissions) (blamed : made.1.contributor = index) :
    made.1.localLine ∈ remaining.map Prod.snd := by
  induction unfolds with
  | done | malformed | missing | overlong | tooDeep | tooMany | unreadable => simp at member
  | code isCode later inductionHypothesis =>
    rw [Emission.lines_code] at member
    rcases List.mem_cons.1 member with rfl | member
    · exact List.mem_cons_self
    · exact List.mem_cons_of_mem _ (inductionHypothesis inside member blamed)
  | repeated directive leads known later inductionHypothesis =>
    rw [Emission.lines_repeated] at member
    rcases List.mem_cons.1 member with rfl | member
    · exact List.mem_cons_self
    · exact List.mem_cons_of_mem _ (inductionHypothesis inside member blamed)
  | expanded directive leads fresh room isText unfolds later insideHypothesis laterHypothesis =>
    rw [List.cons_append, Emission.lines_opened, Emission.lines_append] at member
    rcases List.mem_append.1 member with above | below
    · -- The lines of the file that is opened here are not blamed on this one.
      have bounds := unfolds.index_le_of_mem_blamed (by simp) _ (mem_blamed above)
      omega
    · refine List.mem_cons_of_mem _ (laterHypothesis ?_ below blamed)
      rw [List.length_append]
      omega
  | stopped directive leads fresh room isText unfolds insideHypothesis =>
    have bounds := unfolds.index_le_of_mem_blamed (by simp) _ (mem_blamed member)
    omega

/-- In front of lines with larger numbers, a line of the file keeps their order. -/
theorem Unfolds.increasing_cons {line : Nat} {rest : List (String × Nat)} {first : Origin × String}
    (later : workspace.Unfolds limits nesting location index opened rest emissions halt)
    (inside : index < opened.length) (smallest : ∀ numbered ∈ rest, line < numbered.2)
    (localLine_eq : first.1.localLine = line) (blamed : first.1.contributor = index)
    (increasing : (Emission.lines emissions).Pairwise Origin.Increases) :
    (first :: Emission.lines emissions).Pairwise Origin.Increases := by
  refine List.pairwise_cons.2 ⟨fun made member same => ?_, increasing⟩
  obtain ⟨numbered, numberedMember, number_eq⟩ :=
    List.mem_map.1 (later.localLine_mem inside member (same.symm.trans blamed))
  rw [localLine_eq, ← number_eq]
  exact smallest numbered numberedMember

/-- The lines that are blamed on one file have increasing numbers in it. -/
theorem Unfolds.increasing
    (unfolds : workspace.Unfolds limits nesting location index opened remaining emissions halt)
    (inside : index < opened.length)
    (numbered : remaining.Pairwise fun first second => first.2 < second.2) :
    (Emission.lines emissions).Pairwise Origin.Increases := by
  induction unfolds with
  | done | malformed | missing | overlong | tooDeep | tooMany | unreadable => exact .nil
  | code isCode later inductionHypothesis =>
    obtain ⟨smallest, numberedLater⟩ := List.pairwise_cons.1 numbered
    exact later.increasing_cons inside smallest rfl rfl (inductionHypothesis inside numberedLater)
  | repeated directive leads known later inductionHypothesis =>
    obtain ⟨smallest, numberedLater⟩ := List.pairwise_cons.1 numbered
    exact later.increasing_cons inside smallest rfl rfl (inductionHypothesis inside numberedLater)
  | expanded directive leads fresh room isText unfolds later insideHypothesis laterHypothesis =>
    obtain ⟨-, numberedLater⟩ := List.pairwise_cons.1 numbered
    rw [List.cons_append, Emission.lines_opened, Emission.lines_append]
    refine List.pairwise_append.2 ⟨insideHypothesis (by simp) (pairwise_numberedLines _),
      laterHypothesis ?_ numberedLater, fun above aboveMember below belowMember same => ?_⟩
    · rw [List.length_append]
      omega
    -- What is opened here is finished here, so the two parts have no file in common.
    · have aboveBounds := unfolds.blamed_bounds _ (mem_blamed aboveMember)
      have belowBounds := later.blamed_bounds _ (mem_blamed belowMember)
      simp only [List.length_append, List.length_cons, List.length_nil]
        at aboveBounds belowBounds
      omega
  | stopped directive leads fresh room isText unfolds insideHypothesis =>
    exact insideHypothesis (by simp) (pairwise_numberedLines _)

namespace Course

variable {entry : Path} {resolution : Resolution}
  (course : workspace.Course entry limits resolution)

/-- The lines of a unit come in increasing order from each of its files. -/
theorem increasing : (Emission.lines course.trace).Pairwise Origin.Increases :=
  course.unfolds.increasing (by simp) (pairwise_numberedLines _)

include course in
/-- The segments of a unit are maximal. -/
theorem isMaximal : resolution.provenance.IsMaximal := by
  rw [course.provenance_eq]
  exact Draft.emitAll_of_kept Provenance.keptByGrowth_isMaximal (Provenance.isMaximal_empty _)
    course.trace

/-- Of two lines of the unit that the file owns, the earlier one comes first in the file. -/
theorem localLine_lt {index earlier later localEarlier localLater : Nat}
    (atEarlier : atLine? ((Emission.lines course.trace).map Prod.fst) earlier =
      some (.own index localEarlier))
    (atLater : atLine? ((Emission.lines course.trace).map Prod.fst) later =
      some (.own index localLater))
    (before : earlier < later) : localEarlier < localLater := by
  rw [atLine?_map, Option.map_eq_some_iff] at atEarlier atLater
  obtain ⟨madeEarlier, isEarlier, originEarlier⟩ := atEarlier
  obtain ⟨madeLater, isLater, originLater⟩ := atLater
  have increases := rel_of_atLine? course.increasing isEarlier isLater before
  rw [Origin.Increases, originEarlier, originLater] at increases
  exact increases rfl

section Recorded

variable {index line localLine : Nat} {contributor : Contributor} {segment : Segment}
  (recorded : resolution.provenance.contributors[index]? = some contributor)

include recorded

/-- A line in a segment comes from the line of the file that the segment says. -/
theorem origin_of_segment (member : segment ∈ contributor.segments) (lower : segment.start ≤ line)
    (upper : line ≤ segment.stop) :
    atLine? ((Emission.lines course.trace).map Prod.fst) line =
      some (.own index (segment.localLine line)) := by
  have inOrder := (course.inOrder contributor (List.mem_of_getElem? recorded)).1
  refine (course.records.localLine?_iff recorded line _).1 ?_
  rw [Contributor.localLine?, inOrder.find?_eq member lower upper, Option.map_some]

/-- A line of the file that is a line of the unit is one that the file has. -/
theorem localLine_bounds
    (here : atLine? ((Emission.lines course.trace).map Prod.fst) line =
      some (.own index localLine)) :
    1 ≤ localLine ∧ localLine ≤ (workspace.sourceLines contributor.path).length := by
  obtain ⟨text, member, -⟩ := course.atLine?_lines here
  obtain ⟨place, owner, numbered, -, ownerRecorded, path_eq, numberedMember, isLine⟩ :=
    course.exists_source member
  obtain rfl := Option.some.inj (ownerRecorded.symm.trans recorded)
  obtain ⟨-, rfl, -⟩ := Origin.ofLine?_own_iff.1 isLine
  have isSource := mem_numberedSource_iff.1 numberedMember
  rw [path_eq]
  exact atLine?_isSome_iff.1 (Option.isSome_of_eq_some isSource)

include course in
/-- Each contributor of a unit is canonical. -/
theorem isCanonical :
    contributor.IsCanonical resolution.provenance.totalLines
      (workspace.sourceLines contributor.path).length := by
  obtain ⟨inOrder, within⟩ := course.inOrder contributor (List.mem_of_getElem? recorded)
  refine ⟨fun segment member => ?_, fun segment member => ?_, ?_, ?_⟩
  · have ordered := inOrder.ordered segment member
    have atStart := course.origin_of_segment recorded member (Nat.le_refl _) ordered
    have positive := atLine?_isSome_iff.1 (Option.isSome_of_eq_some atStart)
    exact ⟨positive.1, ordered, within segment member⟩
  · have ordered := inOrder.ordered segment member
    have first := course.localLine_bounds recorded
      (course.origin_of_segment recorded member (Nat.le_refl _) ordered)
    have last := course.localLine_bounds recorded
      (course.origin_of_segment recorded member ordered (Nat.le_refl _))
    simp only [Segment.localLine] at first last
    omega
  · refine inOrder.separated.imp_of_mem fun {first second} isFirst isSecond before =>
      ⟨before, ?_⟩
    have atLast := course.origin_of_segment recorded isFirst (inOrder.ordered first isFirst)
      (Nat.le_refl _)
    have atNext := course.origin_of_segment recorded isSecond (Nat.le_refl _)
      (inOrder.ordered second isSecond)
    simpa [Segment.localLine] using course.localLine_lt atLast atNext before
  · exact course.isMaximal contributor (List.mem_of_getElem? recorded)

end Recorded

end Course

/-- The segments of every file of a resolved unit are canonical, and what is computed from them
neither underflows nor overflows. -/
theorem isCanonical_and_isExact_of_resolve {entry : Path} {resolution : Resolution}
    (resolved : workspace.resolve entry limits = .ok resolution)
    (fewLines : resolution.unit.lineCount < Text.lineBound - 1)
    (shortFiles : ∀ contributor ∈ resolution.provenance.contributors,
      (workspace.sourceLines contributor.path).length < Text.lineBound - 1) :
    ∀ contributor ∈ resolution.provenance.contributors,
      contributor.IsCanonical resolution.provenance.totalLines
        (workspace.sourceLines contributor.path).length ∧ contributor.IsExact := by
  obtain ⟨course⟩ := resolve_ok_iff.1 resolved
  intro contributor member
  obtain ⟨index, recorded⟩ := List.mem_iff_getElem?.1 member
  have canonical := course.isCanonical recorded
  have total_eq : resolution.unit.lineCount = resolution.provenance.totalLines := by
    rw [FlatUnit.lineCount, course.unit_lines_eq, course.records.totalLines_eq, List.length_map,
      List.length_map]
  have shortFile := shortFiles contributor member
  exact ⟨canonical, canonical.isExact (by omega) (by omega)⟩

/-- Of entangled files, the one that is included owns two lines around a blank. -/
theorem isCanonical_entangled : ∃ resolution,
    entangled.resolve ⟨"top"⟩ .standard = .ok resolution ∧
      resolution.provenance.contributors.map Contributor.segments =
        [[⟨4, 4, 2⟩], [⟨1, 1, 1⟩, ⟨3, 3, 4⟩], []] ∧
      ∀ contributor ∈ resolution.provenance.contributors,
        contributor.IsCanonical resolution.provenance.totalLines
          (entangled.sourceLines contributor.path).length ∧ contributor.IsExact := by
  have read : (entangled.resolve ⟨"top"⟩ .standard).toOption.map (fun resolution =>
      (resolution.unit.lineCount, resolution.provenance.contributors.map Contributor.segments,
        resolution.provenance.contributors.map fun contributor =>
          (entangled.sourceLines contributor.path).length)) =
        some (5, [[⟨4, 4, 2⟩], [⟨1, 1, 1⟩, ⟨3, 3, 4⟩], []], [3, 4, 0]) := by decide +kernel
  cases resolved : entangled.resolve ⟨"top"⟩ .standard with
  | error => simp [resolved, Except.toOption] at read
  | ok resolution =>
    rw [resolved] at read
    obtain ⟨lineCount, rest⟩ := Prod.mk.inj (Option.some.inj read)
    obtain ⟨segments, lengths⟩ := Prod.mk.inj rest
    refine ⟨resolution, rfl, segments, isCanonical_and_isExact_of_resolve resolved ?_ ?_⟩
    · rw [lineCount]
      decide
    · intro contributor member
      have length_mem : (entangled.sourceLines contributor.path).length ∈ [3, 4, 0] :=
        lengths ▸ List.mem_map_of_mem member
      have all : ∀ length ∈ [3, 4, 0], length < Text.lineBound - 1 := by decide
      exact all _ length_mem

end Workspace

end LiveShader
