import LiveShader.Proofs.Resolution.Reachability

/-!
# Limits only cut off

A resolution under limits is the one without limits, or it is cut off. Which of the two,
the levels and the number of the files decide (`Ample.resolve_ok_iff`), so the placeholders
of repeated includes never count.
-/

namespace LiveShader

namespace Workspace

variable (workspace : Workspace)

/-- Limits that no resolution in the workspace can pass. All of them resolve alike
(`Ample.resolve_eq`), as if there were no limits. -/
structure Ample (limits : ResolutionLimits) : Prop where
  depth : workspace.tree.files.length ≤ limits.maxDepth
  files : workspace.tree.files.length ≤ limits.maxFiles

/-- The limits cut the resolution of an entry off. -/
def IsCutOff (entry : Path) (limits : ResolutionLimits) : Prop :=
  ∃ error stamps, limits.CutsOff error ∧ workspace.resolve entry limits = .error ⟨error, stamps⟩

/-- The limits hold a resolution: it has no more files, and none stands deeper. -/
structure Within (limits : ResolutionLimits) (resolution : Resolution) : Prop where
  files : resolution.provenance.size ≤ limits.maxFiles
  depth : ∀ index depth, workspace.Nested resolution index depth → depth ≤ limits.maxDepth

/-- Limits do no more to the resolution of an entry than to cut it off where it passes them. -/
structure LimitsOnlyCut (entry : Path) (unlimited limits : ResolutionLimits) : Prop where
  uncut : ¬ workspace.IsCutOff entry unlimited
  ok_iff : ∀ resolution, workspace.resolve entry limits = .ok resolution ↔
    workspace.resolve entry unlimited = .ok resolution ∧ workspace.Within limits resolution
  same_or_cutOff : workspace.resolve entry limits = workspace.resolve entry unlimited ∨
    workspace.IsCutOff entry limits
  raise : ∀ higher : ResolutionLimits, limits.maxDepth ≤ higher.maxDepth →
    limits.maxFiles ≤ higher.maxFiles → ∀ resolution,
      workspace.resolve entry limits = .ok resolution →
        workspace.resolve entry higher = .ok resolution
  /-- Whatever repeated includes stand at the deepest level or behind the last file: that
  level and the number of the files are limits enough. -/
  tight : ∀ resolution, workspace.resolve entry unlimited = .ok resolution →
    ∃ deepest, (∃ index, workspace.Nested resolution index deepest) ∧
      workspace.resolve entry ⟨deepest, resolution.provenance.size⟩ = .ok resolution

variable {workspace} {limits unlimited : ResolutionLimits} {entry : Path}
  {resolution : Resolution}

/-- What was cut off did not succeed. -/
theorem IsCutOff.ne_ok (isCutOff : workspace.IsCutOff entry limits) :
    workspace.resolve entry limits ≠ .ok resolution := by
  obtain ⟨error, stamps, -, cutOff⟩ := isCutOff
  simp [cutOff]

/-- Higher limits hold what lower ones do. -/
theorem Within.mono {higher : ResolutionLimits} (within : workspace.Within limits resolution)
    (depth : limits.maxDepth ≤ higher.maxDepth) (files : limits.maxFiles ≤ higher.maxFiles) :
    workspace.Within higher resolution where
  files := within.files.trans files
  depth index level nested := (within.depth index level nested).trans depth

section Account

variable {location : Location} {file : File} {text : String} {emissions : List Emission}
  {openings : List Opening} {halt : Option Halt}

/-- Limits that hold the account of an entry file change nothing. -/
theorem Descends.resolve_eq
    (descends : workspace.Descends 0 location 0 [location] (numberedLines text) emissions openings
      halt)
    (leads : workspace.LeadsTo entry location file) (isText : file.text? = some text)
    (hold : limits.Hold 1 openings) :
    workspace.resolve entry limits =
      (entryDraft location (.opened location file :: emissions)).conclude halt := by
  have room : 0 < limits.maxFiles := by
    have many := hold.many
    omega
  have unfolds := descends.unfolds (Nat.zero_add _) hold
  exact (Expands.lines room isText unfolds).resolve_eq leads

/-- Limits that do not hold the account of an entry file cut its resolution off. -/
theorem Descends.isCutOff
    (descends : workspace.Descends 0 location 0 [location] (numberedLines text) emissions openings
      halt)
    (leads : workspace.LeadsTo entry location file) (isText : file.text? = some text)
    (excess : ¬ limits.Hold 1 openings) : workspace.IsCutOff entry limits := by
  by_cases full : limits.maxFiles = 0
  · exact ⟨_, _, ⟨location.path, .inr rfl⟩, (Expands.tooMany full).resolve_eq leads⟩
  · have room : 0 < limits.maxFiles := Nat.pos_of_ne_zero full
    obtain ⟨emissions, halt, cutsOff, unfolds⟩ :=
      descends.cutOff (Nat.zero_add limits.maxDepth) room excess
    exact ⟨halt.error, _, cutsOff, (Expands.lines room isText unfolds).resolve_eq leads⟩

/-- Limits hold a resolution exactly if they hold its account. -/
theorem Course.Accounts.hold_iff {other : ResolutionLimits}
    {course : workspace.Course entry other resolution} (accounts : course.Accounts openings) :
    limits.Hold 1 openings ↔ workspace.Within limits resolution := by
  have size_eq : resolution.provenance.size = 1 + openings.length :=
    accounts.size_eq.trans (Nat.add_comm _ _)
  constructor
  · intro hold
    refine ⟨size_eq ▸ hold.many, fun index depth nested => ?_⟩
    have level := List.mem_of_getElem? (accounts.nested_iff.1 nested)
    rcases List.mem_cons.1 level with rfl | below
    · exact Nat.zero_le _
    · obtain ⟨opening, member, rfl⟩ := List.mem_map.1 below
      exact hold.deep opening member
  · intro within
    refine ⟨fun opening member => ?_, size_eq ▸ within.files⟩
    obtain ⟨index, atIndex⟩ := List.mem_iff_getElem?.1 member
    have level := Opening.levels_succ_iff.2 ⟨opening, atIndex, rfl⟩
    exact within.depth (index + 1) opening.depth (accounts.nested_iff.2 level)

/-- Ample limits never cut off. -/
theorem Ample.not_cutsOff (ample : workspace.Ample limits)
    (leads : workspace.LeadsTo entry location file) (isText : file.text? = some text)
    (unfolds : workspace.Unfolds limits limits.maxDepth location 0 [location] (numberedLines text)
      emissions halt) :
    ∀ stop ∈ halt, ¬ limits.CutsOff stop.error := by
  have present := leads.present
  have bound := ncard_reachable_le present
  exact unfolds.not_cutsOff (finite_reachable present) (bound.trans ample.files)
    (spends_entry (bound.trans ample.depth)) .refl (numberedLines_subset present isText)

/-- Ample limits have room for an entry file. -/
theorem Ample.room (ample : workspace.Ample limits)
    (leads : workspace.LeadsTo entry location file) : 0 < limits.maxFiles := by
  have listed : location ∈ workspace.tree.files := by
    rw [FileTree.mem_files_iff, leads.present]
    rfl
  exact (List.length_pos_of_mem listed).trans_le ample.files

end Account

/-- A resolution under limits is the one under ample limits, or it is cut off. -/
theorem Ample.same_or_cutOff (ample : workspace.Ample unlimited) (entry : Path)
    (limits : ResolutionLimits) :
    workspace.resolve entry limits = workspace.resolve entry unlimited ∨
      workspace.IsCutOff entry limits := by
  rcases workspace.leads_cases entry with
    leads | ⟨location, file, leads, overlong⟩ | ⟨location, file, leads⟩
  · left
    rw [resolve_of_missing leads, resolve_of_missing leads]
  · left
    rw [resolve_of_overlong leads overlong, resolve_of_overlong leads overlong]
  · have room := ample.room leads
    cases isText : file.text? with
    | none =>
      by_cases full : limits.maxFiles = 0
      · exact .inr ⟨_, _, ⟨location.path, .inr rfl⟩, (Expands.tooMany full).resolve_eq leads⟩
      · left
        rw [(Expands.unreadable (Nat.pos_of_ne_zero full) isText).resolve_eq leads,
          (Expands.unreadable room isText).resolve_eq leads]
    | some text =>
      obtain ⟨emissions, halt, unfolds⟩ :=
        exists_unfolds unlimited.maxDepth location 0 [location] (numberedLines text)
      obtain ⟨openings, descends⟩ :=
        unfolds.exists_descends (ample.not_cutsOff leads isText unfolds) 0
      by_cases hold : limits.Hold 1 openings
      · left
        rw [descends.resolve_eq leads isText hold,
          (Expands.lines room isText unfolds).resolve_eq leads]
      · exact .inr (descends.isCutOff leads isText hold)

/-- No resolution is cut off by ample limits. -/
theorem Ample.not_isCutOff (ample : workspace.Ample limits) :
    ¬ workspace.IsCutOff entry limits := by
  rintro ⟨error, stamps, cutsOff, cutOff⟩
  rcases workspace.leads_cases entry with
    leads | ⟨location, file, leads, overlong⟩ | ⟨location, file, leads⟩
  · rw [resolve_of_missing leads] at cutOff
    obtain ⟨rfl, -⟩ := FailedResolution.mk.inj (Except.error.inj cutOff)
    simp [ResolutionLimits.CutsOff] at cutsOff
  · rw [resolve_of_overlong leads overlong] at cutOff
    obtain ⟨rfl, -⟩ := FailedResolution.mk.inj (Except.error.inj cutOff)
    simp [ResolutionLimits.CutsOff] at cutsOff
  · obtain ⟨emissions, halt, expands⟩ := exists_expands workspace limits location file
    rw [expands.resolve_eq leads] at cutOff
    cases halt with
    | none => cases cutOff
    | some halt =>
      obtain ⟨rfl, -⟩ := FailedResolution.mk.inj (Except.error.inj cutOff)
      cases expands with
      | tooMany full => exact absurd full (Nat.ne_of_gt (ample.room leads))
      | unreadable room notText => simp [ResolutionLimits.CutsOff] at cutsOff
      | lines room isText unfolds => exact ample.not_cutsOff leads isText unfolds halt rfl cutsOff

/-- Ample limits all resolve alike. -/
theorem Ample.resolve_eq (ample : workspace.Ample limits) (other : workspace.Ample unlimited)
    (entry : Path) : workspace.resolve entry limits = workspace.resolve entry unlimited :=
  (other.same_or_cutOff entry limits).resolve_right ample.not_isCutOff

/-- A resolution succeeds under limits exactly if it succeeds under ample limits within them. -/
theorem Ample.resolve_ok_iff (ample : workspace.Ample unlimited) :
    workspace.resolve entry limits = .ok resolution ↔
      workspace.resolve entry unlimited = .ok resolution ∧
        workspace.Within limits resolution := by
  constructor
  · intro resolved
    obtain ⟨course⟩ := Workspace.resolve_ok_iff.1 resolved
    obtain ⟨openings, accounts⟩ := course.exists_accounts
    have hold : limits.Hold 1 openings := by
      by_contra excess
      exact (Descends.isCutOff accounts course.leads course.isText excess).ne_ok resolved
    rcases ample.same_or_cutOff entry limits with same | isCutOff
    · exact ⟨same ▸ resolved, accounts.hold_iff.1 hold⟩
    · exact absurd resolved isCutOff.ne_ok
  · rintro ⟨resolved, within⟩
    obtain ⟨course⟩ := Workspace.resolve_ok_iff.1 resolved
    obtain ⟨openings, accounts⟩ := course.exists_accounts
    rw [Descends.resolve_eq accounts course.leads course.isText (accounts.hold_iff.2 within)]
    exact congrArg Except.ok course.resolution_eq.symm

/-- Some file of a resolution stands deepest. -/
theorem exists_deepest (resolved : workspace.resolve entry limits = .ok resolution) :
    ∃ deepest, (∃ index, workspace.Nested resolution index deepest) ∧
      ∀ index depth, workspace.Nested resolution index depth → depth ≤ deepest := by
  obtain ⟨course⟩ := resolve_ok_iff.1 resolved
  obtain ⟨openings, accounts⟩ := course.exists_accounts
  have levels : Opening.levels openings ≠ [] := List.cons_ne_nil _ _
  refine ⟨(Opening.levels openings).max levels, ?_, fun index depth nested => ?_⟩
  · obtain ⟨index, atIndex⟩ := List.mem_iff_getElem?.1 (List.max_mem levels)
    exact ⟨index, accounts.nested_iff.2 atIndex⟩
  · exact List.le_max_of_mem (List.mem_of_getElem? (accounts.nested_iff.1 nested))

/-- Limits only cut off, exactly where a resolution passes them. -/
theorem limitsOnlyCut (entry : Path) (limits : ResolutionLimits)
    (ample : workspace.Ample unlimited) : workspace.LimitsOnlyCut entry unlimited limits where
  uncut := ample.not_isCutOff
  ok_iff resolution := ample.resolve_ok_iff
  same_or_cutOff := ample.same_or_cutOff entry limits
  raise higher depth files resolution resolved := by
    obtain ⟨unlimitedResolved, within⟩ := ample.resolve_ok_iff.1 resolved
    exact ample.resolve_ok_iff.2 ⟨unlimitedResolved, within.mono depth files⟩
  tight resolution resolved := by
    obtain ⟨deepest, isLevel, bound⟩ := exists_deepest resolved
    exact ⟨deepest, isLevel, ample.resolve_ok_iff.2 ⟨resolved, Nat.le_refl _, bound⟩⟩

/-! ## Files that repeat each other -/

namespace Echoing

def outer : Location := [⟨"outer", by decide⟩]

def inner : Location := [⟨"inner", by decide⟩]

end Echoing

/-- `outer` includes `inner` twice, and `inner` includes `outer` and itself. -/
def echoing : Workspace where
  tree := ⟨[
    (Echoing.outer, .file ⟨"#include \"inner\"\n#include \"inner\"\n".toUTF8, 1⟩),
    (Echoing.inner, .file ⟨"#include \"outer\"\n#include \"inner\"\nx\n".toUTF8, 2⟩)], fun _ => 0⟩
  directory := []

/-- Three repeated includes, two of them at the deepest level and all behind the last file,
do not count against the limits. -/
theorem limitsOnlyCut_echoing : echoing.Ample .standard ∧
    echoing.LimitsOnlyCut ⟨"outer"⟩ .standard ⟨1, 2⟩ ∧
    (echoing.resolve ⟨"outer"⟩ ⟨1, 2⟩).toOption.map (·.unit.lines) = some ["", "", "x", ""] := by
  have ample : echoing.Ample .standard := ⟨by decide +kernel, by decide +kernel⟩
  exact ⟨ample, limitsOnlyCut ⟨"outer"⟩ ⟨1, 2⟩ ample, by decide +kernel⟩

end Workspace

end LiveShader
