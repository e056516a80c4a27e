import LiveShader.Shader.Build

/-!
# The two steps of a build

A build is a resolution and then a compilation, and its result is read off the two.
-/

namespace LiveShader

namespace Workspace

variable {State Compiled Program : Type} {workspace : Workspace} {entry : Path}
  {limits : ResolutionLimits} {resolution : Resolution}

/-- After a resolution the compiler decides. -/
theorem build_of_resolve (compiler : Compiler State Compiled Program)
    (resolved : workspace.resolve entry limits = .ok resolution) (state : State) (stage : Stage)
    (format : DiagnosticFormat) :
    (workspace.build compiler state entry stage limits format).result =
      match (compiler.compile state resolution.unit.text stage).1 with
      | .ok compiled => .ok ⟨resolution, compiled⟩
      | .error raw =>
        .error (.compile resolution (Report.ofOutput raw resolution.provenance format)) := by
  rw [resolve] at resolved
  simp only [build, resolved]
  split <;> rename_i compiled <;> rw [compiled]

/-- Without a resolution there is nothing to compile. -/
theorem build_of_failure (compiler : Compiler State Compiled Program)
    {failure : FailedResolution} (failed : workspace.resolve entry limits = .error failure)
    (state : State) (stage : Stage) (format : DiagnosticFormat) :
    (workspace.build compiler state entry stage limits format).result =
      .error (.resolve failure) := by
  rw [resolve] at failed
  simp only [build, failed]

/-- A build ends without a resolution, with a report on what the compiler said of one, or
with what one compiled to. -/
theorem build_cases (workspace : Workspace) (compiler : Compiler State Compiled Program)
    (state : State) (entry : Path) (stage : Stage) (limits : ResolutionLimits)
    (format : DiagnosticFormat) :
    (∃ failure, workspace.resolve entry limits = .error failure ∧
      (workspace.build compiler state entry stage limits format).result =
        .error (.resolve failure)) ∨
    (∃ resolution raw, workspace.resolve entry limits = .ok resolution ∧
      (compiler.compile state resolution.unit.text stage).1 = .error raw ∧
      (workspace.build compiler state entry stage limits format).result =
        .error (.compile resolution (Report.ofOutput raw resolution.provenance format))) ∨
    ∃ build, workspace.resolve entry limits = .ok build.resolution ∧
      (workspace.build compiler state entry stage limits format).result = .ok build := by
  cases resolved : workspace.resolve entry limits with
  | error failure =>
    exact .inl ⟨failure, rfl, build_of_failure compiler resolved state stage format⟩
  | ok resolution =>
    have result := build_of_resolve compiler resolved state stage format
    cases compiled : (compiler.compile state resolution.unit.text stage).1 with
    | error raw =>
      rw [compiled] at result
      exact .inr (.inl ⟨resolution, raw, rfl, compiled, result⟩)
    | ok unit =>
      rw [compiled] at result
      exact .inr (.inr ⟨⟨resolution, unit⟩, rfl, result⟩)

/-- With a pure compiler it does not matter in which state it is asked. -/
theorem build_result_eq {compiler : Compiler State Compiled Program} (pure : compiler.IsPure)
    (workspace : Workspace) (first second : State) (entry : Path) (stage : Stage)
    (limits : ResolutionLimits) (format : DiagnosticFormat) :
    (workspace.build compiler first entry stage limits format).result =
      (workspace.build compiler second entry stage limits format).result := by
  cases resolved : workspace.resolve entry limits with
  | error failure => rw [build_of_failure compiler resolved, build_of_failure compiler resolved]
  | ok resolution =>
    rw [build_of_resolve compiler resolved, build_of_resolve compiler resolved,
      pure.1 first second]

/-- A build notes what its resolution notes. -/
theorem build_journal (workspace : Workspace) (compiler : Compiler State Compiled Program)
    (state : State) (entry : Path) (stage : Stage) (limits : ResolutionLimits)
    (format : DiagnosticFormat) :
    (workspace.build compiler state entry stage limits format).journal =
      (workspace.attemptResolve entry limits).journal := by
  unfold build
  dsimp only
  split
  · rfl
  · split <;> rfl

end Workspace

end LiveShader
