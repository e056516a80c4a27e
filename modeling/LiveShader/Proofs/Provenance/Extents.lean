import LiveShader.Proofs.Provenance.Segments
import LiveShader.Proofs.Resolution.Emission

/-!
# Extents

The segments of a file stay in the order in which its lines were added, so the extent of a
file goes from the first line that it owns to the last.
-/

namespace LiveShader

namespace Segment

/-- Every segment has a line, and each one ends before the next one starts. -/
structure InOrder (segments : List Segment) : Prop where
  ordered : ∀ segment ∈ segments, segment.start ≤ segment.stop
  separated : segments.Pairwise fun first second => first.stop < second.start

theorem inOrder_nil : InOrder [] :=
  ⟨by simp, .nil⟩

variable {segments : List Segment} {line : Nat}

/-- What lies before all segments and the new line lies before all segments with it. -/
theorem lt_start_of_mem_push {bound : Nat} (localLine : Nat)
    (before : ∀ segment ∈ segments, bound < segment.start) (isBefore : bound < line) :
    ∀ segment ∈ push segments line localLine, bound < segment.start := by
  fun_induction push segments line localLine with
  | case1 line localLine => simpa [single] using isBefore
  | case2 last line localLine continues => simpa using before
  | case3 last line localLine continues =>
    exact List.forall_mem_cons.2 ⟨before last List.mem_cons_self, by simpa [single] using isBefore⟩
  | case4 first second rest line localLine inductionHypothesis =>
    obtain ⟨beforeFirst, beforeRest⟩ := List.forall_mem_cons.1 before
    exact List.forall_mem_cons.2 ⟨beforeFirst, inductionHypothesis beforeRest isBefore⟩

/-- A line behind all segments keeps them in order. -/
theorem InOrder.push (inOrder : InOrder segments) (localLine : Nat)
    (behind : ∀ segment ∈ segments, segment.stop < line) :
    InOrder (push segments line localLine) := by
  have within := push_within localLine fun segment member =>
    ⟨inOrder.ordered segment member, behind segment member⟩
  refine ⟨fun segment member => (within segment member).1, ?_⟩
  have separated := inOrder.separated
  clear within inOrder
  fun_induction Segment.push segments line localLine with
  | case1 line localLine => exact List.pairwise_singleton _ _
  | case2 last line localLine continues => exact List.pairwise_singleton _ _
  | case3 last line localLine continues =>
    exact List.pairwise_pair.2 (behind last List.mem_cons_self)
  | case4 first second rest line localLine inductionHypothesis =>
    obtain ⟨beforeRest, separatedRest⟩ := List.pairwise_cons.1 separated
    obtain ⟨behindFirst, behindRest⟩ := List.forall_mem_cons.1 behind
    exact List.pairwise_cons.2 ⟨lt_start_of_mem_push localLine beforeRest behindFirst,
      inductionHypothesis behindRest separatedRest⟩

/-- In order, no segment starts before the first one or ends behind the last one. -/
theorem InOrder.bounds (inOrder : InOrder segments) {first last segment : Segment}
    (isFirst : segments.head? = some first) (isLast : segments.getLast? = some last)
    (member : segment ∈ segments) :
    first.start ≤ segment.start ∧ segment.stop ≤ last.stop := by
  have ordered := inOrder.ordered segment member
  constructor
  · obtain ⟨rest, rfl⟩ := List.head?_eq_some_iff.1 isFirst
    rcases List.mem_cons.1 member with rfl | later
    · exact Nat.le_refl _
    · have before := (List.pairwise_cons.1 inOrder.separated).1 segment later
      have firstOrdered := inOrder.ordered first List.mem_cons_self
      omega
  · obtain ⟨rest, rfl⟩ := List.getLast?_eq_some_iff.1 isLast
    rcases List.mem_append.1 member with earlier | isEnd
    · have before := (List.pairwise_append.1 inOrder.separated).2.2 segment earlier last
        List.mem_cons_self
      have lastOrdered := inOrder.ordered last (by simp)
      omega
    · obtain rfl := List.mem_singleton.1 isEnd
      exact Nat.le_refl _

end Segment

namespace Contributor

variable {contributor : Contributor} {line : Nat}

end Contributor

namespace Provenance

/-- The segments of all files are in order, and end within the lines so far. -/
def InOrder (provenance : Provenance) : Prop :=
  ∀ contributor ∈ provenance.contributors, Segment.InOrder contributor.segments ∧
    ∀ segment ∈ contributor.segments, segment.stop ≤ provenance.totalLines

variable {provenance : Provenance}

/-- No segment is out of order at first. -/
theorem inOrder_empty (root : Path) : (empty root).InOrder := by
  simp [InOrder, empty]

/-- A new contributor leaves the segments in order. -/
theorem InOrder.addContributor (inOrder : provenance.InOrder) (path : Path)
    (modified : Option Nat) : (provenance.addContributor path modified).InOrder := by
  intro contributor member
  rcases List.mem_append.1 member with old | new
  · exact inOrder contributor old
  · rw [List.mem_singleton.1 new]
    exact ⟨Segment.inOrder_nil, by simp⟩

/-- A line at the end leaves the segments in order. -/
theorem InOrder.addOwned (inOrder : provenance.InOrder) (index localLine : Nat) :
    (provenance.addOwned index localLine).InOrder := by
  intro contributor member
  obtain ⟨position, atPosition⟩ := List.mem_iff_getElem?.1 member
  obtain ⟨before, beforeAt, rfl⟩ := exists_of_contributors_addOwned atPosition
  obtain ⟨segmentsInOrder, within⟩ := inOrder before (List.mem_of_getElem? beforeAt)
  split
  · have behind : ∀ segment ∈ before.segments, segment.stop < provenance.totalLines + 1 :=
      fun segment segmentMember => Nat.lt_succ_of_le (within segment segmentMember)
    have pushed := Segment.push_within localLine fun segment segmentMember =>
      ⟨segmentsInOrder.ordered segment segmentMember, behind segment segmentMember⟩
    exact ⟨segmentsInOrder.push localLine behind,
      fun segment segmentMember => (pushed segment segmentMember).2⟩
  · exact ⟨segmentsInOrder, fun segment segmentMember =>
      Nat.le_succ_of_le (within segment segmentMember)⟩

/-- A placeholder leaves the segments in order. -/
theorem InOrder.addPlaceholder (inOrder : provenance.InOrder) (index localLine : Nat) :
    (provenance.addPlaceholder index localLine).InOrder := by
  intro contributor member
  obtain ⟨segmentsInOrder, within⟩ := inOrder contributor member
  exact ⟨segmentsInOrder, fun segment segmentMember =>
    Nat.le_succ_of_le (within segment segmentMember)⟩

end Provenance

/-- Whatever a draft emits, segments stay in order. -/
theorem Draft.inOrder_emitAll {draft : Draft} (inOrder : draft.provenance.InOrder)
    (emissions : List Emission) : (draft.emitAll emissions).provenance.InOrder :=
  emitAll_of_kept ⟨Provenance.InOrder.addContributor, Provenance.InOrder.addOwned,
    Provenance.InOrder.addPlaceholder⟩ inOrder emissions

end LiveShader
