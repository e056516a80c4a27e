import Mathlib.Data.List.Chain
import LiveShader.Proofs.Provenance.Extents
import LiveShader.Text.Digit

/-!
# Canonical segments

Segments are as long as they can be: where one ends, the next one does not go on, in the unit
and in the file at once (`Maximal`). A push keeps that whatever it adds, because it tries the
last segment first. With the order of the segments in both coordinates this is their canonical
form.

What is computed from such segments stays within 32 bits if the lines of the unit and of the
file do (`Contributor.IsCanonical.isExact`).
-/

namespace LiveShader

namespace Segment

/-! ## Maximal segments -/

/-- The second segment goes on where the first one ends, in the unit and in the file. -/
def Joins (first second : Segment) : Prop :=
  second.start = first.stop + 1 ∧ second.localStart = first.localLine first.stop + 1

/-- No two consecutive segments could be one. -/
def Maximal (segments : List Segment) : Prop :=
  segments.IsChain fun first second => ¬ first.Joins second

theorem maximal_nil : Maximal [] := .nil

variable {segments : List Segment} {segment : Segment} {line : Nat}

/-- Segments that cannot be merged do not join. -/
theorem not_joins_single {localLine : Nat}
    (breaks : ¬ segment.continuesWith line localLine = true) :
    ¬ segment.Joins (single line localLine) := by
  rintro ⟨next, nextLocal⟩
  exact breaks (continuesWith_iff.2 ⟨next.symm, nextLocal.symm⟩)

/-- The first segment may grow, but it starts where it did. -/
theorem exists_push_eq_cons (segment : Segment) (segments : List Segment) (line localLine : Nat) :
    ∃ grown rest, push (segment :: segments) line localLine = grown :: rest ∧
      grown.start = segment.start ∧ grown.localStart = segment.localStart := by
  cases segments with
  | nil =>
    rw [push]
    split
    · exact ⟨_, [], rfl, rfl, rfl⟩
    · exact ⟨_, _, rfl, rfl, rfl⟩
  | cons second rest => exact ⟨_, _, rfl, rfl, rfl⟩

/-- One more line keeps segments maximal. -/
theorem Maximal.push (maximal : Maximal segments) (line localLine : Nat) :
    Maximal (push segments line localLine) := by
  fun_induction Segment.push segments line localLine with
  | case1 line localLine => exact List.isChain_singleton _
  | case2 last line localLine continues => exact List.isChain_singleton _
  | case3 last line localLine breaks =>
    exact List.isChain_cons_cons.2 ⟨not_joins_single breaks, List.isChain_singleton _⟩
  | case4 first second rest line localLine inductionHypothesis =>
    obtain ⟨apart, later⟩ := List.isChain_cons_cons.1 maximal
    have grownLater := inductionHypothesis later
    obtain ⟨grown, others, push_eq, start_eq, localStart_eq⟩ :=
      exists_push_eq_cons second rest line localLine
    rw [push_eq] at grownLater ⊢
    refine List.isChain_cons_cons.2 ⟨fun joins => apart ?_, grownLater⟩
    rwa [Joins, start_eq, localStart_eq] at joins

/-! ## Segments in order -/

/-- In order, a line lies in one segment at most. -/
theorem InOrder.find?_eq (inOrder : InOrder segments) (member : segment ∈ segments)
    (lower : segment.start ≤ line) (upper : line ≤ segment.stop) :
    segments.find? (·.contains line) = some segment := by
  induction segments with
  | nil => simp at member
  | cons first rest inductionHypothesis =>
    obtain ⟨firstOrdered, restOrdered⟩ := List.forall_mem_cons.1 inOrder.ordered
    obtain ⟨before, restSeparated⟩ := List.pairwise_cons.1 inOrder.separated
    rw [List.find?_cons]
    rcases List.mem_cons.1 member with rfl | later
    · rw [contains_iff.2 ⟨lower, upper⟩]
    · have behind := before segment later
      rw [contains_eq_false_iff.2 (.inr (by omega))]
      exact inductionHypothesis ⟨restOrdered, restSeparated⟩ later

/-- Segments between two bounds have at most as many lines as lie there. -/
theorem InOrder.lineSum_le {floor ceiling : Nat} (inOrder : InOrder segments)
    (above : ∀ segment ∈ segments, floor < segment.start)
    (below : ∀ segment ∈ segments, segment.stop ≤ ceiling) (order : floor ≤ ceiling) :
    floor + lineSum segments ≤ ceiling := by
  induction segments generalizing floor with
  | nil => simpa [lineSum] using order
  | cons first rest inductionHypothesis =>
    obtain ⟨firstOrdered, restOrdered⟩ := List.forall_mem_cons.1 inOrder.ordered
    obtain ⟨before, restSeparated⟩ := List.pairwise_cons.1 inOrder.separated
    obtain ⟨firstAbove, -⟩ := List.forall_mem_cons.1 above
    obtain ⟨firstBelow, restBelow⟩ := List.forall_mem_cons.1 below
    have later := inductionHypothesis ⟨restOrdered, restSeparated⟩ before restBelow firstBelow
    have count : first.lineCount = first.stop - first.start + 1 := rfl
    calc floor + lineSum (first :: rest)
        = floor + (first.lineCount + lineSum rest) := rfl
      _ ≤ first.stop + lineSum rest := by omega
      _ ≤ ceiling := later

end Segment

/-- The segments of all files are maximal. -/
def Provenance.IsMaximal (provenance : Provenance) : Prop :=
  ∀ contributor ∈ provenance.contributors, Segment.Maximal contributor.segments

namespace Provenance

/-- There are no segments to merge at first. -/
theorem isMaximal_empty (root : Path) : (empty root).IsMaximal := by
  simp [IsMaximal, empty]

/-- What a resolution adds to a provenance leaves its segments maximal. -/
theorem keptByGrowth_isMaximal : KeptByGrowth IsMaximal where
  addContributor {provenance} maximal path modified contributor member := by
    rcases List.mem_append.1 member with old | new
    · exact maximal contributor old
    · rw [List.mem_singleton.1 new]
      exact Segment.maximal_nil
  addOwned {provenance} maximal index localLine contributor member := by
    obtain ⟨position, atPosition⟩ := List.mem_iff_getElem?.1 member
    obtain ⟨before, beforeAt, rfl⟩ := exists_of_contributors_addOwned atPosition
    have maximalBefore := maximal before (List.mem_of_getElem? beforeAt)
    split
    · exact maximalBefore.push _ localLine
    · exact maximalBefore
  addPlaceholder maximal _ _ := maximal

end Provenance

/-! ## Arithmetic in 32 bits -/

/-- A sum, unless it is too large for 32 bits. -/
def checkedAdd (first second : Nat) : Option Nat :=
  if first + second < Text.lineBound then some (first + second) else none

/-- A difference, unless it is negative. -/
def checkedSub (first second : Nat) : Option Nat :=
  if second ≤ first then some (first - second) else none

/-- `localLine` by steps that are checked. -/
def Segment.checkedLocalLine (segment : Segment) (line : Nat) : Option Nat := do
  checkedAdd (← checkedSub line segment.start) segment.localStart

/-- `lineCount` by steps that are checked. -/
def Segment.checkedLineCount (segment : Segment) : Option Nat := do
  checkedAdd (← checkedSub segment.stop segment.start) 1

namespace Contributor

/-- `ownedLines` by steps that are checked, one segment after the other. -/
def checkedOwnedLines (contributor : Contributor) : Option Nat :=
  contributor.segments.foldlM
    (fun count segment => do checkedAdd count (← segment.checkedLineCount)) 0

/-- The segments are the canonical ones for their lines, in a unit and in a file of so many
lines. -/
structure IsCanonical (contributor : Contributor) (unitLines fileLines : Nat) : Prop where
  inUnit : ∀ segment ∈ contributor.segments,
    1 ≤ segment.start ∧ segment.start ≤ segment.stop ∧ segment.stop ≤ unitLines
  inFile : ∀ segment ∈ contributor.segments,
    1 ≤ segment.localStart ∧ segment.localStart + (segment.stop - segment.start) ≤ fileLines
  increasing : contributor.segments.Pairwise fun first second =>
    first.stop < second.start ∧ first.localLine first.stop < second.localStart
  maximal : Segment.Maximal contributor.segments

/-- Nothing that is computed from the segments underflows or overflows. -/
structure IsExact (contributor : Contributor) : Prop where
  localLine_eq : ∀ segment ∈ contributor.segments, ∀ line, segment.contains line = true →
    segment.checkedLocalLine line = some (segment.localLine line)
  lineCount_eq : ∀ segment ∈ contributor.segments,
    segment.checkedLineCount = some segment.lineCount
  ownedLines_eq : contributor.checkedOwnedLines = some contributor.ownedLines
  extent?_lt : ∀ extent, contributor.extent? = some extent →
    1 ≤ extent.first ∧ extent.first ≤ extent.last ∧ extent.last < Text.lineBound

/-- The segments of a canonical contributor are in order. -/
theorem IsCanonical.inOrder {contributor : Contributor} {unitLines fileLines : Nat}
    (canonical : contributor.IsCanonical unitLines fileLines) :
    Segment.InOrder contributor.segments :=
  ⟨fun segment member => (canonical.inUnit segment member).2.1,
    canonical.increasing.imp fun apart => apart.1⟩

end Contributor

/-- A sum that fits is not refused. -/
theorem checkedAdd_eq {first second : Nat} (fits : first + second < Text.lineBound) :
    checkedAdd first second = some (first + second) :=
  if_pos fits

/-- A difference that is not negative is not refused. -/
theorem checkedSub_eq {first second : Nat} (fits : second ≤ first) :
    checkedSub first second = some (first - second) :=
  if_pos fits

namespace Segment

variable {segment : Segment} {line : Nat}

/-- The local line of a flattened line is not refused, if it fits. -/
theorem checkedLocalLine_eq (lower : segment.start ≤ line)
    (fits : segment.localLine line < Text.lineBound) :
    segment.checkedLocalLine line = some (segment.localLine line) := by
  rw [checkedLocalLine, checkedSub_eq lower]
  exact checkedAdd_eq fits

/-- The line count of a segment is not refused, if it fits. -/
theorem checkedLineCount_eq (ordered : segment.start ≤ segment.stop)
    (fits : segment.lineCount < Text.lineBound) :
    segment.checkedLineCount = some segment.lineCount := by
  rw [checkedLineCount, checkedSub_eq ordered]
  exact checkedAdd_eq fits

/-- A count that fits in the end fits at each step. -/
theorem foldlM_checked_eq {segments : List Segment} {count : Nat}
    (ordered : ∀ segment ∈ segments, segment.start ≤ segment.stop)
    (fits : count + lineSum segments < Text.lineBound) :
    segments.foldlM (fun count segment => do checkedAdd count (← segment.checkedLineCount)) count =
      some (count + lineSum segments) := by
  induction segments generalizing count with
  | nil => rfl
  | cons first rest inductionHypothesis =>
    obtain ⟨firstOrdered, restOrdered⟩ := List.forall_mem_cons.1 ordered
    have sum_eq : lineSum (first :: rest) = first.lineCount + lineSum rest := rfl
    rw [sum_eq, ← Nat.add_assoc] at fits ⊢
    rw [List.foldlM_cons, checkedLineCount_eq firstOrdered (by omega)]
    calc (checkedAdd count first.lineCount >>= fun count => rest.foldlM _ count)
        = rest.foldlM _ (count + first.lineCount) := by
          rw [checkedAdd_eq (Nat.lt_of_le_of_lt (Nat.le_add_right _ _) fits)]
          rfl
      _ = some (count + first.lineCount + lineSum rest) := inductionHypothesis restOrdered fits

end Segment

/-- Canonical segments of a unit and a file whose lines have numbers of 32 bits are computed with
exactly. -/
theorem Contributor.IsCanonical.isExact {contributor : Contributor} {unitLines fileLines : Nat}
    (canonical : contributor.IsCanonical unitLines fileLines)
    (fewLines : unitLines < Text.lineBound) (shortFile : fileLines < Text.lineBound) :
    contributor.IsExact where
  localLine_eq segment member line contains := by
    obtain ⟨lower, upper⟩ := Segment.contains_iff.1 contains
    have inFile := canonical.inFile segment member
    refine Segment.checkedLocalLine_eq lower ?_
    rw [Segment.localLine]
    omega
  lineCount_eq segment member := by
    have inUnit := canonical.inUnit segment member
    refine Segment.checkedLineCount_eq inUnit.2.1 ?_
    rw [Segment.lineCount]
    omega
  ownedLines_eq := by
    have sum_le := canonical.inOrder.lineSum_le
      (fun segment member => (canonical.inUnit segment member).1)
      (fun segment member => (canonical.inUnit segment member).2.2) (Nat.zero_le _)
    have fits : 0 + Segment.lineSum contributor.segments < Text.lineBound := by omega
    have counted := Segment.foldlM_checked_eq canonical.inOrder.ordered fits
    rwa [Nat.zero_add] at counted
  extent?_lt extent isExtent := by
    unfold extent? at isExtent
    split at isExtent
    · rename_i first last isFirst isLast
      obtain rfl := Option.some.inj isExtent
      have bounds := canonical.inOrder.bounds isFirst isLast (List.mem_of_head? isFirst)
      have firstInUnit := canonical.inUnit first (List.mem_of_head? isFirst)
      have lastInUnit := canonical.inUnit last (List.mem_of_getLast? isLast)
      refine ⟨firstInUnit.1, ?_, ?_⟩ <;> simp only <;> omega
    · cases isExtent

end LiveShader
