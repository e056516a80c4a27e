import LiveShader.Proofs.Numbering
import LiveShader.Proofs.Provenance.Segments
import LiveShader.Provenance

/-!
# Provenance as a plain list of origins

A provenance answers for each line as if it kept one origin a line, in the order of the
lines. `Provenance.Records` ties it to that list. The three operations that grow a
provenance extend the list or leave it alone, so whatever grows by them has a list, and
`Records.attribution_own_iff` with its siblings reads every attribution off the list.
-/

namespace LiveShader

/-- What a line of a unit is: a line of a contributor, or the placeholder of a directive. -/
inductive Origin where
  | own (contributor localLine : Nat)
  | repeated (contributor localLine : Nat)
deriving DecidableEq

namespace Origin

/-- The file that the line is blamed on. -/
def contributor : Origin → Nat
  | .own contributor _ | .repeated contributor _ => contributor

/-- The placeholder at a line, if the line is one. -/
def placeholder? (numbered : Origin × Nat) : Option Placeholder :=
  match numbered with
  | (.own _ _, _) => none
  | (.repeated contributor localLine, line) => some ⟨line, contributor, localLine⟩

/-- The placeholders among origins, with their lines. -/
def placeholders (origins : List Origin) : List Placeholder :=
  (origins.zipIdx 1).filterMap placeholder?

/-- The placeholders are those of the lines that repeat a directive. -/
theorem mem_placeholders_iff {origins : List Origin} {placeholder : Placeholder} :
    placeholder ∈ placeholders origins ↔
      atLine? origins placeholder.line =
        some (.repeated placeholder.contributor placeholder.localLine) := by
  simp only [placeholders, List.mem_filterMap, Prod.exists, mem_zipIdx_one_iff]
  constructor
  · rintro ⟨origin, line, here, isPlaceholder⟩
    cases origin with
    | own => simp [placeholder?] at isPlaceholder
    | repeated =>
      simp only [placeholder?, Option.some.injEq] at isPlaceholder
      subst isPlaceholder
      exact here
  · intro here
    exact ⟨_, _, here, rfl⟩

/-- A line at the end adds its placeholder, if it is one. -/
theorem placeholders_append_singleton (origins : List Origin) (origin : Origin) :
    placeholders (origins ++ [origin]) =
      placeholders origins ++ (placeholder? (origin, origins.length + 1)).toList := by
  simp only [placeholders, List.zipIdx_append, List.filterMap_append, List.zipIdx_singleton,
    List.filterMap_cons, List.filterMap_nil, Nat.add_comm 1]
  cases placeholder? (origin, origins.length + 1) <;> rfl

end Origin

namespace Contributor

variable {contributor : Contributor} {line : Nat}

/-- A line behind all segments of a file becomes a line of its, and no other changes. -/
theorem localLine?_addOwned (localLine query : Nat)
    (behind : ∀ segment ∈ contributor.segments,
      segment.start ≤ segment.stop ∧ segment.stop < line) :
    (contributor.addOwned line localLine).localLine? query =
      if query = line then some localLine else contributor.localLine? query :=
  Segment.lookup_push localLine query behind

/-- A line behind all segments of a file is one more that it owns. -/
theorem ownedLines_addOwned (localLine : Nat)
    (behind : ∀ segment ∈ contributor.segments,
      segment.start ≤ segment.stop ∧ segment.stop < line) :
    (contributor.addOwned line localLine).ownedLines = contributor.ownedLines + 1 :=
  Segment.lineSum_push localLine behind

/-- What does not depend on a file's lines stays as it is when one file gets a line. -/
theorem map_modify_addOwned {α : Type} {f : Contributor → α}
    (ignoresLines : ∀ contributor line localLine,
      f (contributor.addOwned line localLine) = f contributor)
    (contributors : List Contributor) (index line localLine : Nat) :
    (contributors.modify index (·.addOwned line localLine)).map f = contributors.map f := by
  apply List.ext_getElem?
  intro position
  simp only [List.getElem?_map, List.getElem?_modify]
  cases contributors[position]? with
  | none => rfl
  | some contributor => by_cases here : index = position <;> simp [here, ignoresLines]

end Contributor

namespace Provenance

variable {provenance : Provenance} {origins : List Origin}

/-- The provenance keeps these origins, one a line. -/
structure Records (provenance : Provenance) (origins : List Origin) : Prop where
  totalLines_eq : provenance.totalLines = origins.length
  placeholders_eq : provenance.placeholders = Origin.placeholders origins
  contributor_lt : ∀ origin ∈ origins, origin.contributor < provenance.contributors.length
  within : ∀ contributor ∈ provenance.contributors, ∀ segment ∈ contributor.segments,
    segment.start ≤ segment.stop ∧ segment.stop ≤ provenance.totalLines
  localLine?_iff : ∀ {index contributor},
    provenance.contributors[index]? = some contributor → ∀ line localLine,
      contributor.localLine? line = some localLine ↔
        atLine? origins line = some (.own index localLine)

/-- A contributor after a new line is the one before, with the line if it owns it. -/
theorem exists_of_contributors_addOwned {index localLine position : Nat}
    {contributor : Contributor}
    (atPosition :
      (provenance.addOwned index localLine).contributors[position]? = some contributor) :
    ∃ before, provenance.contributors[position]? = some before ∧
      (if index = position then before.addOwned (provenance.totalLines + 1) localLine
        else before) = contributor := by
  simpa only [Provenance.addOwned, List.getElem?_modify, Option.map_eq_map,
    Option.map_eq_some_iff] using atPosition

/-- A contributor after a new file is one before, or the new one, which owns no line. -/
theorem exists_of_contributors_addContributor {path : Path} {modified : Option Nat}
    {index : Nat} {contributor : Contributor}
    (atIndex : (provenance.addContributor path modified).contributors[index]? =
      some contributor) :
    provenance.contributors[index]? = some contributor ∨
      index = provenance.contributors.length ∧ contributor.segments = [] := by
  simp only [Provenance.addContributor, List.getElem?_append] at atIndex
  split at atIndex
  · exact .inl atIndex
  · rename_i beyond
    have isLast : index = provenance.contributors.length := by
      have bound := (List.getElem?_eq_some_iff.1 atIndex).1
      rw [List.length_singleton] at bound
      omega
    rw [isLast, Nat.sub_self, List.getElem?_cons_zero, Option.some.injEq] at atIndex
    exact .inr ⟨isLast, atIndex ▸ rfl⟩

namespace Records

/-- Nothing is recorded at first. -/
theorem empty (root : Path) : (Provenance.empty root).Records [] where
  totalLines_eq := rfl
  placeholders_eq := rfl
  contributor_lt := by simp
  within := by simp [Provenance.empty]
  localLine?_iff := by simp [Provenance.empty]

/-- A new file owns no line yet. -/
theorem addContributor (records : provenance.Records origins) (path : Path)
    (modified : Option Nat) : (provenance.addContributor path modified).Records origins where
  totalLines_eq := records.totalLines_eq
  placeholders_eq := records.placeholders_eq
  contributor_lt origin member := by
    have := records.contributor_lt origin member
    simp only [Provenance.addContributor, List.length_append, List.length_singleton]
    omega
  within contributor member := by
    rcases List.mem_append.1 member with old | new
    · exact records.within contributor old
    · rw [List.mem_singleton.1 new]
      simp
  localLine?_iff {index contributor} atIndex line localLine := by
    rcases exists_of_contributors_addContributor atIndex with isOld | ⟨rfl, unowned⟩
    · exact records.localLine?_iff isOld line localLine
    · have absent : atLine? origins line ≠
          some (.own provenance.contributors.length localLine) := fun here =>
        Nat.lt_irrefl _ (records.contributor_lt _ (mem_of_atLine? here))
      simp [Contributor.localLine?, unowned, absent]

/-- A new line is owned by its contributor and changes no other line. -/
theorem addOwned (records : provenance.Records origins) {index : Nat} (localLine : Nat)
    (inside : index < provenance.contributors.length) :
    (provenance.addOwned index localLine).Records (origins ++ [.own index localLine]) where
  totalLines_eq := by simp [Provenance.addOwned, records.totalLines_eq]
  placeholders_eq := by
    simp [Provenance.addOwned, records.placeholders_eq, Origin.placeholders_append_singleton,
      Origin.placeholder?]
  contributor_lt origin member := by
    simp only [Provenance.addOwned, List.length_modify]
    rcases List.mem_append.1 member with old | new
    · exact records.contributor_lt origin old
    · rw [List.mem_singleton.1 new]
      exact inside
  within contributor member := by
    obtain ⟨position, atPosition⟩ := List.mem_iff_getElem?.1 member
    obtain ⟨before, beforeAt, rfl⟩ := exists_of_contributors_addOwned atPosition
    have bounds := records.within before (List.mem_of_getElem? beforeAt)
    intro segment segmentMember
    simp only [Provenance.addOwned]
    split at segmentMember
    · exact Segment.push_within localLine
        (fun old oldMember => ⟨(bounds old oldMember).1, by have := bounds old oldMember; omega⟩)
        segment segmentMember
    · have := bounds segment segmentMember
      omega
  localLine?_iff {position contributor} atPosition line other := by
    obtain ⟨before, beforeAt, rfl⟩ := exists_of_contributors_addOwned atPosition
    have bounds := records.within before (List.mem_of_getElem? beforeAt)
    have old := records.localLine?_iff beforeAt line other
    have total := records.totalLines_eq
    rw [atLine?_append_singleton]
    by_cases isOwner : index = position
    · rw [if_pos isOwner, Contributor.localLine?_addOwned _ _ fun segment member =>
        ⟨(bounds segment member).1, by have := bounds segment member; omega⟩, total]
      by_cases isNew : line = origins.length + 1
      · simp [isNew, isOwner]
      · simp [isNew, old]
    · rw [if_neg isOwner, old]
      by_cases isNew : line = origins.length + 1
      · simp [isNew, isOwner]
      · rw [if_neg isNew]

/-- A placeholder is owned by nobody and changes no other line. -/
theorem addPlaceholder (records : provenance.Records origins) {index : Nat} (localLine : Nat)
    (inside : index < provenance.contributors.length) :
    (provenance.addPlaceholder index localLine).Records
      (origins ++ [.repeated index localLine]) where
  totalLines_eq := by simp [Provenance.addPlaceholder, records.totalLines_eq]
  placeholders_eq := by
    simp [Provenance.addPlaceholder, records.placeholders_eq, records.totalLines_eq,
      Origin.placeholders_append_singleton, Origin.placeholder?]
  contributor_lt origin member := by
    rcases List.mem_append.1 member with old | new
    · exact records.contributor_lt origin old
    · rw [List.mem_singleton.1 new]
      exact inside
  within contributor member segment segmentMember := by
    have := records.within contributor member segment segmentMember
    simp only [Provenance.addPlaceholder]
    omega
  localLine?_iff {position contributor} atPosition line other := by
    rw [records.localLine?_iff atPosition line other, atLine?_append_singleton]
    by_cases isNew : line = origins.length + 1
    · simp [isNew]
    · rw [if_neg isNew]

/-! ## Reading attributions off the list -/

/-- The first contributor that claims a line is the only one. -/
theorem locate_eq_some_iff (records : provenance.Records origins) {line : Nat} {place : Place} :
    provenance.locate line = some place ↔
      provenance.contributors[place.index]? = some place.contributor ∧
        atLine? origins line = some (.own place.index place.localLine) := by
  have claimed : ∀ {other : Place}, provenance.locate line = some other →
      provenance.contributors[other.index]? = some other.contributor ∧
        atLine? origins line = some (.own other.index other.localLine) := by
    intro other located
    unfold locate at located
    split at located
    · simp at located
    · obtain ⟨⟨contributor, index⟩, member, claims⟩ := List.exists_of_findSome?_eq_some located
      obtain ⟨localLine, owns, rfl⟩ := Option.map_eq_some_iff.1 claims
      have atIndex := List.mem_zipIdx_iff_getElem?.1 member
      exact ⟨atIndex, (records.localLine?_iff atIndex _ _).1 owns⟩
  refine ⟨claimed, fun ⟨atIndex, here⟩ => ?_⟩
  cases located : provenance.locate line with
  | some other =>
    obtain ⟨otherAt, otherHere⟩ := claimed located
    obtain ⟨index, contributor, localLine⟩ := place
    obtain ⟨otherIndex, otherContributor, otherLine⟩ := other
    obtain ⟨rfl, rfl⟩ := Origin.own.inj (Option.some.inj (otherHere.symm.trans here))
    obtain rfl := Option.some.inj (otherAt.symm.trans atIndex)
    rfl
  | none =>
    have owns := (records.localLine?_iff atIndex _ _).2 here
    have positive : line ≠ 0 := by
      rintro rfl
      simp at here
    rw [locate, if_neg positive, List.findSome?_eq_none_iff] at located
    have unclaimed := located _ (List.mk_mem_zipIdx_iff_getElem?.2 atIndex)
    simp [owns] at unclaimed

/-- A placeholder stands for one directive. -/
theorem directive?_eq_some_iff (records : provenance.Records origins) {line : Nat} {place : Place} :
    provenance.directive? line = some place ↔
      provenance.contributors[place.index]? = some place.contributor ∧
        atLine? origins line = some (.repeated place.index place.localLine) := by
  have member_iff : ∀ placeholder : Placeholder, placeholder ∈ provenance.placeholders ↔
      atLine? origins placeholder.line =
        some (.repeated placeholder.contributor placeholder.localLine) := fun placeholder =>
    records.placeholders_eq ▸ Origin.mem_placeholders_iff
  simp only [directive?, Option.bind_eq_some_iff, Option.map_eq_some_iff]
  constructor
  · rintro ⟨placeholder, found, contributor, atIndex, rfl⟩
    have atLine := List.find?_some found
    have here := (member_iff placeholder).1 (List.mem_of_find?_eq_some found)
    rw [decide_eq_true_eq] at atLine
    exact ⟨atIndex, atLine ▸ here⟩
  · rintro ⟨atIndex, here⟩
    have member := (member_iff ⟨line, place.index, place.localLine⟩).2 here
    cases found : provenance.placeholders.find? (·.line = line) with
    | none => simpa using List.find?_eq_none.1 found _ member
    | some placeholder =>
      have atLine := List.find?_some found
      rw [decide_eq_true_eq] at atLine
      have foundHere := (member_iff placeholder).1 (List.mem_of_find?_eq_some found)
      obtain ⟨sameIndex, sameLine⟩ :=
        Origin.repeated.inj (Option.some.inj ((atLine ▸ foundHere).symm.trans here))
      exact ⟨placeholder, rfl, place.contributor, sameIndex ▸ atIndex, by
        rw [sameIndex, sameLine]⟩

/-- A line is attributed to its own place exactly if it was pushed as a line of that place. -/
theorem attribution_own_iff (records : provenance.Records origins) {line : Nat} {place : Place} :
    provenance.attribution line = .own place ↔
      provenance.contributors[place.index]? = some place.contributor ∧
        atLine? origins line = some (.own place.index place.localLine) := by
  rw [← records.locate_eq_some_iff, attribution]
  split
  · rename_i other located
    simp [located]
  · rename_i located
    split <;> simp [located]

/-- A line is attributed to what encloses it exactly if it was pushed as a repeated directive. -/
theorem attribution_enclosing_iff (records : provenance.Records origins) {line : Nat}
    {place : Place} :
    provenance.attribution line = .enclosing place ↔
      provenance.contributors[place.index]? = some place.contributor ∧
        atLine? origins line = some (.repeated place.index place.localLine) := by
  rw [← records.directive?_eq_some_iff, attribution]
  split
  · rename_i other located
    have here := (records.locate_eq_some_iff.1 located).2
    simp only [reduceCtorEq, false_iff]
    intro directive
    have := (records.directive?_eq_some_iff.1 directive).2
    simp [here] at this
  · split
    · rename_i directive
      simp [directive]
    · rename_i directive
      simp [directive]

/-- A line is attributed to nothing exactly if there is no such line. -/
theorem attribution_unresolved_iff (records : provenance.Records origins) {line : Nat} :
    provenance.attribution line = .unresolved ↔ line = 0 ∨ provenance.totalLines < line := by
  rw [records.totalLines_eq, ← atLine?_eq_none_iff]
  cases here : atLine? origins line with
  | none =>
    simp only [iff_true]
    cases attributed : provenance.attribution line with
    | own place => simp [(records.attribution_own_iff.1 attributed).2] at here
    | enclosing place => simp [(records.attribution_enclosing_iff.1 attributed).2] at here
    | unresolved => rfl
  | some origin =>
    have inside := records.contributor_lt origin (mem_of_atLine? here)
    have atIndex := List.getElem?_eq_getElem inside
    simp only [reduceCtorEq, iff_false]
    cases origin with
    | own index localLine =>
      have owned : provenance.attribution line = .own ⟨index, _, localLine⟩ :=
        records.attribution_own_iff.2 ⟨atIndex, here⟩
      simp [owned]
    | repeated index localLine =>
      have named : provenance.attribution line = .enclosing ⟨index, _, localLine⟩ :=
        records.attribution_enclosing_iff.2 ⟨atIndex, here⟩
      simp [named]

end Records

end Provenance

end LiveShader
