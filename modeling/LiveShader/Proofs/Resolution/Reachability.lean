import LiveShader.Proofs.Resolution.IncludeGraph
import LiveShader.Proofs.Resolution.Nesting

/-!
# A resolution opens the reachable files

Under limits that are at least the number of files that can be reached, nothing but a
fault in one of them stops a resolution, and its contributors are exactly the reachable
files, in an order in which each file is included by an earlier one. A path that is too long
to have a canonical one counts as a fault.
-/

namespace LiveShader

namespace Workspace

variable {workspace : Workspace} {limits : ResolutionLimits} {nesting index : Nat}
  {location : Location} {opened : List Location} {remaining : List (String × Nat)}
  {emissions : List Emission} {halt : Option Halt}

/-- An expansion opens only files that can be reached from where it is. -/
theorem Unfolds.reaches
    (unfolds : workspace.Unfolds limits nesting location index opened remaining emissions halt)
    (lines : ∀ numbered ∈ remaining, numbered.1 ∈ workspace.sourceLines location.path) :
    ∀ place ∈ Emission.locations emissions, place ∈ workspace.reachable location := by
  induction unfolds with
  | done | malformed | missing | overlong | tooDeep | tooMany => simp
  | code isCode later inductionHypothesis =>
    exact inductionHypothesis (List.forall_mem_cons.1 lines).2
  | repeated directive leads known later inductionHypothesis =>
    exact inductionHypothesis (List.forall_mem_cons.1 lines).2
  | expanded directive leads fresh room isText inside later insideHypothesis laterHypothesis =>
    obtain ⟨here, rest⟩ := List.forall_mem_cons.1 lines
    have step := leads.includes here directive
    have below := insideHypothesis (numberedLines_subset leads.present isText)
    intro place member
    simp only [List.cons_append, Emission.locations_opened, Emission.locations_append,
      List.mem_cons, List.mem_append] at member
    rcases member with rfl | member | member
    · exact .single step
    · exact .head step (below place member)
    · exact laterHypothesis rest place member
  | unreadable directive leads fresh room notText =>
    obtain ⟨here, -⟩ := List.forall_mem_cons.1 lines
    intro place member
    obtain rfl := List.mem_singleton.1 member
    exact .single (leads.includes here directive)
  | stopped directive leads fresh room isText inside insideHypothesis =>
    obtain ⟨here, -⟩ := List.forall_mem_cons.1 lines
    have step := leads.includes here directive
    have below := insideHypothesis (numberedLines_subset leads.present isText)
    intro place member
    rcases List.mem_cons.1 member with rfl | member
    · exact .single step
    · exact .head step (below place member)

/-! ## Nothing but a fault stops an expansion -/

/-- The files that were opened are distinct reachable ones, and more than the levels of
nesting that were used up. -/
structure Spends (workspace : Workspace) (start : Location) (nesting : Nat)
    (opened : List Location) : Prop where
  nodup : opened.Nodup
  reached : ∀ place ∈ opened, place ∈ workspace.reachable start
  depth : (workspace.reachable start).ncard < nesting + opened.length

/-- Only the entry is open at first, and all levels are left. -/
theorem spends_entry {start : Location} (depth : (workspace.reachable start).ncard ≤ nesting) :
    workspace.Spends start nesting [start] where
  nodup := List.nodup_singleton start
  reached other member := List.mem_singleton.1 member ▸ .refl
  depth := by
    rw [List.length_singleton]
    omega

/-- To go down into a new file costs one level of nesting and opens one file. -/
theorem Spends.descend {start place : Location}
    (spends : workspace.Spends start (nesting + 1) opened) (fresh : place ∉ opened)
    (reached : place ∈ workspace.reachable start) :
    workspace.Spends start nesting (opened ++ [place]) where
  nodup := nodup_concat spends.nodup fresh
  reached other member := by
    rcases List.mem_append.1 member with member | member
    · exact spends.reached other member
    · exact List.mem_singleton.1 member ▸ reached
  depth := by
    have depth := spends.depth
    rw [List.length_append, List.length_singleton]
    omega

/-- To come back from a file gives its level back, and what was opened below stays open. -/
theorem Spends.ascend {start place : Location} {inner : List Location}
    (spends : workspace.Spends start nesting (opened ++ [place]))
    (reached : place ∈ workspace.reachable start)
    (below : ∀ other ∈ inner, other ∈ workspace.reachable place)
    (nodup : (opened ++ [place] ++ inner).Nodup) :
    workspace.Spends start (nesting + 1) (opened ++ place :: inner) where
  nodup := by simpa using nodup
  reached other member := by
    have member : other ∈ opened ++ [place] ∨ other ∈ inner := by simpa [or_assoc] using member
    rcases member with member | member
    · exact spends.reached other member
    · exact Relation.ReflTransGen.trans reached (below other member)
  depth := by
    have depth := spends.depth
    simp only [List.length_append, List.length_cons, List.length_nil] at depth ⊢
    omega

/-- Limits that hold all reachable files cut nothing off. -/
theorem Unfolds.not_cutsOff {start : Location}
    (unfolds : workspace.Unfolds limits nesting location index opened remaining emissions halt)
    (finite : (workspace.reachable start).Finite)
    (files : (workspace.reachable start).ncard ≤ limits.maxFiles)
    (spends : workspace.Spends start nesting opened)
    (reached : location ∈ workspace.reachable start)
    (lines : ∀ numbered ∈ remaining, numbered.1 ∈ workspace.sourceLines location.path) :
    ∀ stop ∈ halt, ¬ limits.CutsOff stop.error := by
  induction unfolds with
  | done => simp
  | malformed | missing | overlong | unreadable => simp [ResolutionLimits.CutsOff]
  | code isCode later inductionHypothesis =>
    exact inductionHypothesis spends reached (List.forall_mem_cons.1 lines).2
  | repeated directive leads known later inductionHypothesis =>
    exact inductionHypothesis spends reached (List.forall_mem_cons.1 lines).2
  | expanded directive leads fresh room isText inside later insideHypothesis laterHypothesis =>
    obtain ⟨here, rest⟩ := List.forall_mem_cons.1 lines
    have reachedPlace := mem_reachable_of_directive reached here directive leads
    have descended := spends.descend fresh reachedPlace
    have below := inside.reaches (numberedLines_subset leads.present isText)
    exact laterHypothesis (descended.ascend reachedPlace below (inside.nodup descended.nodup))
      reached rest
  | tooDeep directive leads fresh =>
    have length_le := length_le_ncard finite spends.nodup spends.reached
    have depth := spends.depth
    omega
  | tooMany directive leads fresh full =>
    have reachedPlace :=
      mem_reachable_of_directive reached (List.forall_mem_cons.1 lines).1 directive leads
    have descended := spends.descend fresh reachedPlace
    have length_le := length_le_ncard finite descended.nodup descended.reached
    rw [List.length_append, List.length_singleton] at length_le
    omega
  | stopped directive leads fresh room isText inside insideHypothesis =>
    have reachedPlace :=
      mem_reachable_of_directive reached (List.forall_mem_cons.1 lines).1 directive leads
    exact insideHypothesis (spends.descend fresh reachedPlace) reachedPlace
      (numberedLines_subset leads.present isText)

/-- Where all reachable files are sound and no path of theirs is too long, only limits stop an
expansion. -/
theorem Descends.finishes {start : Location} {depth : Nat} {openings : List Opening}
    (descends : workspace.Descends depth location index opened remaining emissions openings halt)
    (sound : ∀ place ∈ workspace.reachable start, workspace.Sound place)
    (short : ∀ place ∈ workspace.reachable start, workspace.HasShortPaths place)
    (reached : location ∈ workspace.reachable start)
    (lines : ∀ numbered ∈ remaining, numbered.1 ∈ workspace.sourceLines location.path) :
    halt = none := by
  induction descends with
  | done => rfl
  | code isCode later inductionHypothesis =>
    exact inductionHypothesis reached (List.forall_mem_cons.1 lines).2
  | repeated directive leads known later inductionHypothesis =>
    exact inductionHypothesis reached (List.forall_mem_cons.1 lines).2
  | expanded directive leads fresh isText inside later insideHypothesis laterHypothesis =>
    exact laterHypothesis reached (List.forall_mem_cons.1 lines).2
  | malformed isMalformed =>
    have wellFormed := ((sound _ reached).of_mem_sourceLines (List.forall_mem_cons.1 lines).1).1
    exact absurd isMalformed wellFormed
  | missing directive leads =>
    have named := ((sound _ reached).of_mem_sourceLines (List.forall_mem_cons.1 lines).1).2
    have found := named _ directive
    simp [leads] at found
  | overlong directive leads overlong =>
    exact absurd overlong (short _ reached _ (List.forall_mem_cons.1 lines).1 _ directive)
  | unreadable directive leads fresh notText =>
    have reachedPlace :=
      mem_reachable_of_directive reached (List.forall_mem_cons.1 lines).1 directive leads
    exact absurd notText ((sound _ reachedPlace).text?_ne_none leads.present)
  | stopped directive leads fresh isText inside insideHypothesis =>
    have reachedPlace :=
      mem_reachable_of_directive reached (List.forall_mem_cons.1 lines).1 directive leads
    exact insideHypothesis reachedPlace (numberedLines_subset leads.present isText)

/-- Where all reachable files are sound, no path of theirs is too long and the limits hold them
all, nothing stops an expansion. -/
theorem Unfolds.finishes {start : Location}
    (unfolds : workspace.Unfolds limits nesting location index opened remaining emissions halt)
    (finite : (workspace.reachable start).Finite)
    (sound : ∀ place ∈ workspace.reachable start, workspace.Sound place)
    (short : ∀ place ∈ workspace.reachable start, workspace.HasShortPaths place)
    (files : (workspace.reachable start).ncard ≤ limits.maxFiles)
    (spends : workspace.Spends start nesting opened)
    (reached : location ∈ workspace.reachable start)
    (lines : ∀ numbered ∈ remaining, numbered.1 ∈ workspace.sourceLines location.path) :
    halt = none := by
  have free := unfolds.not_cutsOff finite files spends reached lines
  obtain ⟨openings, descends⟩ := unfolds.exists_descends free 0
  exact descends.finishes sound short reached lines

/-! ## The order of the files -/

namespace Course

variable {entry : Path} {resolution : Resolution}
  (course : workspace.Course entry limits resolution)

/-- The lines of an entry are those of its file. -/
theorem lines_subset : ∀ numbered ∈ numberedLines course.text,
    numbered.1 ∈ workspace.sourceLines course.location.path :=
  numberedLines_subset course.file?_location course.isText

/-- The opened files are those that can be reached from the entry. -/
theorem mem_opened_iff {place : Location} :
    place ∈ course.opened ↔ place ∈ workspace.reachable course.location := by
  constructor
  · intro isOpened
    rcases List.mem_cons.1 isOpened with rfl | below
    · exact .refl
    · exact course.unfolds.reaches course.lines_subset place below
  · intro reached
    induction reached with
    | refl => exact List.mem_cons_self
    | tail reached includes inductionHypothesis =>
      obtain ⟨file, source, present, isText, served⟩ := course.served inductionHypothesis
      obtain ⟨text, member, directive, targetFile, isDirective, leads⟩ := includes
      rw [sourceLines_path present isText] at member
      obtain ⟨place, placeFile, same, known⟩ := (served text member).leads isDirective
      obtain ⟨rfl, -⟩ := same.unique leads
      exact known

include course in
/-- The reachable files of a unit are sound. -/
theorem sound {place : Location} (reached : place ∈ workspace.reachable course.location) :
    workspace.Sound place := by
  obtain ⟨file, text, present, isText, served⟩ := course.served (course.mem_opened_iff.2 reached)
  refine ⟨file, text, present, isText, fun line member => ?_⟩
  refine ⟨(served line member).wellFormed, fun target directive => ?_⟩
  obtain ⟨place, placeFile, leads, -⟩ := (served line member).leads directive
  rw [leads.regular]
  rfl

include course in
/-- No path of a reachable file of a unit is too long. -/
theorem hasShortPaths {place : Location} (reached : place ∈ workspace.reachable course.location) :
    workspace.HasShortPaths place := by
  obtain ⟨file, text, present, isText, served⟩ := course.served (course.mem_opened_iff.2 reached)
  intro line member target directive
  rw [sourceLines_path present isText] at member
  obtain ⟨place, placeFile, leads, -⟩ := (served line member).leads directive
  exact leads.not_isOverlong

end Course

/-- Sound files without a path that is too long are resolved, if the limits hold them all. -/
theorem exists_resolution_of_sound {entry : Path} {start : Location} {file : File}
    (leads : workspace.LeadsTo entry start file)
    (files : (workspace.reachable start).ncard ≤ limits.maxFiles)
    (depth : (workspace.reachable start).ncard ≤ limits.maxDepth)
    (sound : ∀ place ∈ workspace.reachable start, workspace.Sound place)
    (short : ∀ place ∈ workspace.reachable start, workspace.HasShortPaths place) :
    ∃ resolution, workspace.resolve entry limits = .ok resolution := by
  have finite := finite_reachable leads.present
  have reached : start ∈ workspace.reachable start := .refl
  have room := length_le_ncard finite (List.nodup_singleton start) (by simpa using reached)
  rw [List.length_singleton] at room
  obtain ⟨emissions, halt, expands⟩ := exists_expands workspace limits start file
  have resolve_eq := expands.resolve_eq leads
  cases expands with
  | tooMany full => omega
  | unreadable room notText =>
    exact absurd notText ((sound start reached).text?_ne_none leads.present)
  | lines room isText unfolds =>
    obtain rfl := unfolds.finishes finite sound short files (spends_entry depth) reached
      (numberedLines_subset leads.present isText)
    exact ⟨_, resolve_eq⟩

/-- The course of a resolution starts where its entry leads. -/
theorem Course.location_eq {entry : Path} {start : Location} {file : File} {resolution : Resolution}
    (course : workspace.Course entry limits resolution)
    (leads : workspace.regular? entry = some (start, file)) : course.location = start :=
  (course.leads.unique leads).1.symm

/-- Where no path of a place is too long and the limits hold all reachable files, a resolution
succeeds exactly if these are sound. -/
theorem resolve_iff_sound_of_short {entry : Path} {start : Location} {file : File}
    (short : ∀ place entry, workspace.tree.entryAt? place = some entry →
      place.path.text.utf8ByteSize < FileTree.pathLimit)
    (leads : workspace.regular? entry = some (start, file))
    (files : (workspace.reachable start).ncard ≤ limits.maxFiles)
    (depth : (workspace.reachable start).ncard ≤ limits.maxDepth) :
    (∃ resolution, workspace.resolve entry limits = .ok resolution) ↔
      ∀ place ∈ workspace.reachable start, workspace.Sound place := by
  constructor
  · rintro ⟨resolution, resolved⟩ place reached
    obtain ⟨course⟩ := resolve_ok_iff.1 resolved
    rw [← course.location_eq leads] at reached
    exact course.sound reached
  · intro sound
    exact exists_resolution_of_sound (leadsTo_of_short short leads) files depth sound
      fun place reached => (sound place reached).hasShortPaths short

end Workspace

end LiveShader
