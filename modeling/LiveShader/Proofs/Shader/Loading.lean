import LiveShader.Proofs.Resolution.Freshness
import LiveShader.Proofs.Shader.Build
import LiveShader.Shader

/-!
# What a load settles

A load overwrites all that describes the last load. With a compiler whose answers depend
on their arguments alone, two shaders that were set up alike end alike, whatever was
loaded before, and a load ends alike at two moments at which its entry resolves alike.
-/

namespace LiveShader

/-! ## Settlements -/

/-- What a load settles, whatever the shader was before. It has a program only if it
linked one. -/
structure Settlement (Program : Type) where
  state : ShaderState
  resolution : Option Resolution
  stamps : List Stamp
  lastReport : Option Report
  program : Option Program
  result : Except LoadFailure PUnit

/-- What a load settles once its entry is resolved. The compiler is asked in one state. -/
def settle {State Compiled Program : Type} (compiler : Compiler State Compiled Program)
    (state : State) (vertex : Compiled) (format : DiagnosticFormat) :
    Except FailedResolution Resolution → Settlement Program
  | .error failure =>
    ⟨.failed, none, failure.stamps, none, none, .error (.resolve failure.error)⟩
  | .ok resolution =>
    match (compiler.compile state resolution.unit.text .fragment).1 with
    | .error raw =>
      let report := Report.ofOutput raw resolution.provenance format
      ⟨.failed, some resolution, resolution.provenance.stamps, some report, none,
        .error (.compile report.count)⟩
    | .ok compiled =>
      match (compiler.link state vertex compiled).1 with
      | .error message =>
        ⟨.failed, some resolution, resolution.provenance.stamps, none, none,
          .error (.link message)⟩
      | .ok program =>
        ⟨.compiled, some resolution, resolution.provenance.stamps, none, some program, .ok ⟨⟩⟩

namespace Shader

variable {State Compiled Program : Type}

/-- A shader is as a load left it. -/
structure Shows (shader : Shader State Compiled Program) (settlement : Settlement Program) :
    Prop where
  state_eq : shader.state = settlement.state
  resolution_eq : shader.resolution = settlement.resolution
  stamps_eq : shader.stamps = settlement.stamps
  lastReport_eq : shader.lastReport = settlement.lastReport
  program_eq : ∀ program, settlement.program = some program → shader.program = some program

/-- What a load goes by and never changes is the same. -/
structure SameSetup (first second : Shader State Compiled Program) : Prop where
  vertex_eq : first.vertex = second.vertex
  limits_eq : first.limits = second.limits
  formatOverride_eq : first.formatOverride = second.formatOverride

variable {shader : Shader State Compiled Program} {compiler : Compiler State Compiled Program}
  {vertex : Compiled}

/-- A load leaves the shader as its settlement says. -/
theorem load_shows (pure : compiler.IsPure) (isPrepared : shader.vertex = some vertex)
    (state : State) (workspace : Workspace) (entry : Path) :
    (shader.load compiler workspace entry).shader.Shows
        (settle compiler state vertex (shader.format compiler)
          (workspace.resolve entry shader.limits)) ∧
      (shader.load compiler workspace entry).result =
        (settle compiler state vertex (shader.format compiler)
          (workspace.resolve entry shader.limits)).result := by
  unfold load
  simp only [isPrepared]
  cases resolved : workspace.resolve entry shader.limits with
  | error failure =>
    rw [Workspace.build_of_failure compiler resolved]
    exact ⟨⟨rfl, rfl, rfl, rfl, by simp [settle]⟩, rfl⟩
  | ok resolution =>
    simp only [Workspace.build_of_resolve compiler resolved, settle,
      pure.1 state shader.backend]
    cases (compiler.compile shader.backend resolution.unit.text .fragment).1 with
    | error raw => exact ⟨⟨rfl, rfl, rfl, rfl, by simp⟩, rfl⟩
    | ok compiled =>
      simp only
      generalize (workspace.build compiler shader.backend entry .fragment shader.limits
        (shader.format compiler)).state = next
      simp only [pure.2 state next]
      split <;> rename_i linked <;> rw [linked]
      · exact ⟨⟨rfl, rfl, rfl, rfl, fun _ same => same⟩, rfl⟩
      · exact ⟨⟨rfl, rfl, rfl, rfl, by simp⟩, rfl⟩

/-- A load keeps what it goes by, and remembers its entry. -/
theorem load_setup (isPrepared : shader.vertex = some vertex)
    (compiler : Compiler State Compiled Program) (workspace : Workspace) (entry : Path) :
    (shader.load compiler workspace entry).shader.SameSetup shader ∧
      (shader.load compiler workspace entry).shader.entry = some entry := by
  unfold load
  simp only [isPrepared]
  split
  · exact ⟨⟨isPrepared.symm ▸ rfl, rfl, rfl⟩, rfl⟩
  · exact ⟨⟨isPrepared.symm ▸ rfl, rfl, rfl⟩, rfl⟩
  · split <;> exact ⟨⟨isPrepared.symm ▸ rfl, rfl, rfl⟩, rfl⟩

end Shader

section Settlements

variable {State Compiled Program : Type} {compiler : Compiler State Compiled Program}
  {state : State} {vertex : Compiled} {format : DiagnosticFormat}

/-- The four ways in which a load can end. -/
theorem settle_cases (answer : Except FailedResolution Resolution) :
    (∃ failure, answer = .error failure ∧ settle compiler state vertex format answer =
      ⟨.failed, none, failure.stamps, none, none, .error (.resolve failure.error)⟩) ∨
    (∃ resolution report, answer = .ok resolution ∧ settle compiler state vertex format answer =
      ⟨.failed, some resolution, resolution.provenance.stamps, some report, none,
        .error (.compile report.count)⟩) ∨
    (∃ resolution message, answer = .ok resolution ∧ settle compiler state vertex format answer =
      ⟨.failed, some resolution, resolution.provenance.stamps, none, none,
        .error (.link message)⟩) ∨
    ∃ resolution program, answer = .ok resolution ∧ settle compiler state vertex format answer =
      ⟨.compiled, some resolution, resolution.provenance.stamps, none, some program, .ok ⟨⟩⟩ := by
  cases answer with
  | error failure => exact .inl ⟨failure, rfl, rfl⟩
  | ok resolution =>
    simp only [settle]
    split
    · exact .inr (.inl ⟨resolution, _, rfl, rfl⟩)
    · split
      · exact .inr (.inr (.inl ⟨resolution, _, rfl, rfl⟩))
      · exact .inr (.inr (.inr ⟨resolution, _, rfl, rfl⟩))

/-- What settles well has a program. -/
theorem exists_program_of_settle {answer : Except FailedResolution Resolution}
    (isOk : (settle compiler state vertex format answer).result = .ok ⟨⟩) :
    ∃ program, (settle compiler state vertex format answer).program = some program := by
  rcases settle_cases answer with
    ⟨_, -, settled⟩ | ⟨_, _, -, settled⟩ | ⟨_, _, -, settled⟩ | ⟨_, program, -, settled⟩ <;>
    rw [settled] at isOk ⊢
  · cases isOk
  · cases isOk
  · cases isOk
  · exact ⟨program, rfl⟩

/-- The stamps that are left are those of the resolution. -/
theorem settle_stamps (workspace : Workspace) (entry : Path) (limits : ResolutionLimits) :
    (settle compiler state vertex format (workspace.resolve entry limits)).stamps =
      workspace.resolveStamps entry limits := by
  unfold Workspace.resolveStamps
  rcases settle_cases (workspace.resolve entry limits) with
    ⟨failure, same, settled⟩ | ⟨resolution, _, same, settled⟩ | ⟨resolution, _, same, settled⟩ |
      ⟨resolution, _, same, settled⟩ <;>
    rw [settled, same]

end Settlements

/-! ## Shaders that are set up alike -/

namespace Shader

variable {State Compiled Program : Type} {compiler : Compiler State Compiled Program}
  {shader initial : Shader State Compiled Program}

/-- The built-in vertex stage was compiled. -/
def IsPrepared (shader : Shader State Compiled Program)
    (compiler : Compiler State Compiled Program) : Prop :=
  ∃ state vertex, (compiler.compile state fullScreenVertex .vertex).1 = .ok vertex ∧
    shader.vertex = some vertex

/-- A new shader that was prepared, with the limits and the format of another. -/
def fresh (shader : Shader State Compiled Program) (compiler : Compiler State Compiled Program)
    (state : State) : Shader State Compiled Program :=
  ((new state shader.limits shader.formatOverride).prepare compiler).shader

/-- A shader is prepared by compiling the vertex stage. -/
theorem prepare_shader (shader : Shader State Compiled Program) {vertex : Compiled}
    (compiled : (compiler.compile shader.backend fullScreenVertex .vertex).1 = .ok vertex) :
    (shader.prepare compiler).shader =
      { shader with
        backend := (compiler.compile shader.backend fullScreenVertex .vertex).2
        vertex := some vertex } := by
  unfold prepare
  split <;> rename_i answer
  · rw [answer] at compiled
    rw [answer, Except.ok.inj compiled]
  · rw [answer] at compiled
    cases compiled

/-- Preparing succeeds once the vertex stage compiles. -/
theorem prepare_result (shader : Shader State Compiled Program) {vertex : Compiled}
    (compiled : (compiler.compile shader.backend fullScreenVertex .vertex).1 = .ok vertex) :
    (shader.prepare compiler).result = .ok ⟨⟩ := by
  unfold prepare
  split <;> rename_i answer
  · rfl
  · rw [answer] at compiled
    cases compiled

/-- With a pure compiler all shaders that were prepared have one vertex stage. -/
theorem fresh_sameSetup (pure : compiler.IsPure) (isPrepared : shader.IsPrepared compiler)
    (state : State) : (shader.fresh compiler state).SameSetup shader := by
  obtain ⟨other, vertex, compiled, isVertex⟩ := isPrepared
  rw [pure.1 other state] at compiled
  rw [fresh, prepare_shader (new state shader.limits shader.formatOverride) compiled]
  exact ⟨isVertex.symm, rfl, rfl⟩

/-- Shaders with the same setup read output in the same format. -/
theorem SameSetup.format_eq {first second : Shader State Compiled Program}
    (setup : first.SameSetup second) (compiler : Compiler State Compiled Program) :
    first.format compiler = second.format compiler := by
  rw [format, format, setup.formatOverride_eq]

/-- Setups are the same both ways. -/
theorem SameSetup.symm {first second : Shader State Compiled Program}
    (setup : first.SameSetup second) : second.SameSetup first :=
  ⟨setup.vertex_eq.symm, setup.limits_eq.symm, setup.formatOverride_eq.symm⟩

/-- Setups are the same where both are the same as one between them. -/
theorem SameSetup.trans {first second third : Shader State Compiled Program}
    (setup : first.SameSetup second) (next : second.SameSetup third) : first.SameSetup third :=
  ⟨setup.vertex_eq.trans next.vertex_eq, setup.limits_eq.trans next.limits_eq,
    setup.formatOverride_eq.trans next.formatOverride_eq⟩

/-- A load of a shader that was set up alike ends as the settlement says. -/
theorem SameSetup.load_shows (setup : shader.SameSetup initial) (pure : compiler.IsPure)
    {vertex : Compiled} (isVertex : initial.vertex = some vertex) (state : State)
    (workspace : Workspace) (entry : Path) :
    (shader.load compiler workspace entry).shader.Shows
        (settle compiler state vertex (initial.format compiler)
          (workspace.resolve entry initial.limits)) ∧
      (shader.load compiler workspace entry).result =
        (settle compiler state vertex (initial.format compiler)
          (workspace.resolve entry initial.limits)).result := by
  rw [← setup.format_eq compiler, ← setup.limits_eq]
  exact Shader.load_shows pure (setup.vertex_eq.trans isVertex) state workspace entry

end Shader

/-! ## Shaders that agree with a load -/

namespace Shader

variable {State Compiled Program : Type} {shader : Shader State Compiled Program}
  {outcome : LoadOutcome State Compiled Program} {compiler : Compiler State Compiled Program}
  {state : State} {vertex : Compiled} {format : DiagnosticFormat}

/-- A shader is as a load leaves it: compiled exactly if the load succeeds, with the same
unit and program then, with the same unit and report if it does not compile or link, and
failed and without a unit if it does not resolve. -/
structure Agrees (shader : Shader State Compiled Program)
    (outcome : LoadOutcome State Compiled Program) : Prop where
  compiled_iff : shader.state = .compiled ↔ outcome.result = .ok ⟨⟩
  compiled : outcome.result = .ok ⟨⟩ →
    shader.resolution = outcome.shader.resolution ∧ shader.program = outcome.shader.program
  refused : ∀ count, outcome.result = .error (.compile count) →
    shader.resolution = outcome.shader.resolution ∧
      shader.lastReport = outcome.shader.lastReport
  unlinked : ∀ message, outcome.result = .error (.link message) →
    shader.resolution = outcome.shader.resolution ∧
      shader.lastReport = outcome.shader.lastReport
  unresolved : ∀ error, outcome.result = .error (.resolve error) →
    shader.state = .failed ∧ shader.resolution = none

/-- Shaders that show one settlement agree. -/
theorem agrees_of_shows {answer : Except FailedResolution Resolution}
    (shows : shader.Shows (settle compiler state vertex format answer))
    (loaded : outcome.shader.Shows (settle compiler state vertex format answer))
    (result_eq : outcome.result = (settle compiler state vertex format answer).result) :
    shader.Agrees outcome := by
  have resolution_eq := shows.resolution_eq.trans loaded.resolution_eq.symm
  have report_eq := shows.lastReport_eq.trans loaded.lastReport_eq.symm
  have state_eq := shows.state_eq
  have program_eq : ∀ program, (settle compiler state vertex format answer).program =
      some program → shader.program = outcome.shader.program := fun program same =>
    (shows.program_eq program same).trans (loaded.program_eq program same).symm
  have unit_eq := shows.resolution_eq
  rcases settle_cases answer with
    ⟨failure, -, settled⟩ | ⟨resolution, _, -, settled⟩ | ⟨resolution, _, -, settled⟩ |
      ⟨resolution, program, -, settled⟩ <;>
    rw [settled] at result_eq state_eq program_eq unit_eq
  · exact ⟨by simp [state_eq, result_eq], by simp [result_eq], by simp [result_eq],
      by simp [result_eq], fun _ _ => ⟨state_eq, unit_eq⟩⟩
  · exact ⟨by simp [state_eq, result_eq], by simp [result_eq],
      fun _ _ => ⟨resolution_eq, report_eq⟩, by simp [result_eq], by simp [result_eq]⟩
  · exact ⟨by simp [state_eq, result_eq], by simp [result_eq], by simp [result_eq],
      fun _ _ => ⟨resolution_eq, report_eq⟩, by simp [result_eq]⟩
  · exact ⟨by simp [state_eq, result_eq], fun _ => ⟨resolution_eq, program_eq program rfl⟩,
      by simp [result_eq], by simp [result_eq], by simp [result_eq]⟩

/-- Shaders whose entries do not resolve agree. -/
theorem agrees_of_failures {failure failure' : FailedResolution}
    (shows : shader.Shows (settle compiler state vertex format (.error failure)))
    (result_eq : outcome.result =
      (settle compiler state vertex format (.error failure')).result) :
    shader.Agrees outcome := by
  have failed : shader.state = .failed := shows.state_eq
  have noUnit : shader.resolution = none := shows.resolution_eq
  have result_eq : outcome.result = .error (.resolve failure'.error) := result_eq
  exact ⟨by simp [failed, result_eq], by simp [result_eq], by simp [result_eq], by simp [result_eq],
    fun _ _ => ⟨failed, noUnit⟩⟩

end Shader

end LiveShader
