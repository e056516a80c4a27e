import LiveShader.Proofs.Shader.Calls
import LiveShader.Proofs.Shader.Loading

/-!
# Reloading forgets

With a compiler whose answers depend on their arguments alone, a reload ends as the load of
a fresh shader does, whatever calls came before. All that it may still show of the past is
the program, and that only if it fails.
-/

namespace LiveShader.Shader

variable {State Compiled Program : Type} {compiler : Compiler State Compiled Program}
  {shader other : Shader State Compiled Program} {limits : ResolutionLimits}
  {format : Option DiagnosticFormat} {workspace : Workspace} {entry : Path}

/-! ## Shaders that went through calls -/

/-- A shader with these limits and this format that went through some calls. -/
def Reached (compiler : Compiler State Compiled Program) (limits : ResolutionLimits)
    (format : Option DiagnosticFormat) (shader : Shader State Compiled Program) : Prop :=
  ∃ backend calls, shader = (new backend limits format).after compiler calls

/-- What calls never change: limits and format are as they were set up, a vertex stage is
the one that the compiler made of the built-in source, and an entry is only there with it. -/
structure Founded (compiler : Compiler State Compiled Program) (limits : ResolutionLimits)
    (format : Option DiagnosticFormat) (shader : Shader State Compiled Program) : Prop where
  limits_eq : shader.limits = limits
  formatOverride_eq : shader.formatOverride = format
  isPrepared : shader.vertex.isSome → shader.IsPrepared compiler
  entered : shader.entry.isSome → shader.vertex.isSome

/-- A new shader is founded: it has its settings, and neither a vertex stage nor an entry. -/
theorem founded_new (compiler : Compiler State Compiled Program) (backend : State)
    (limits : ResolutionLimits) (format : Option DiagnosticFormat) :
    Founded compiler limits format (new backend limits format) where
  limits_eq := rfl
  formatOverride_eq := rfl
  isPrepared := nofun
  entered := nofun

/-- Preparation keeps a shader founded, on the vertex stage of the built-in source. -/
theorem Founded.prepare (founded : Founded compiler limits format shader) :
    Founded compiler limits format (shader.prepare compiler).shader := by
  unfold Shader.prepare
  split
  · rename_i vertex next compiled
    have made : (compiler.compile shader.backend fullScreenVertex .vertex).1 = .ok vertex := by
      rw [compiled]
    exact ⟨founded.limits_eq, founded.formatOverride_eq, fun _ => ⟨_, _, made, rfl⟩, fun _ => rfl⟩
  · exact ⟨founded.limits_eq, founded.formatOverride_eq, founded.isPrepared, founded.entered⟩

/-- A load keeps a shader founded. -/
theorem Founded.load {outcome : LoadOutcome State Compiled Program}
    (founded : Founded compiler limits format shader)
    (ends : shader.Ends compiler workspace entry outcome) :
    Founded compiler limits format outcome.shader := by
  obtain ⟨limits_eq, formatOverride_eq, isPrepared, entered⟩ := founded
  cases ends with
  | unprepared => exact ⟨limits_eq, formatOverride_eq, isPrepared, entered⟩
  | unresolved isVertex | refused isVertex | unlinked isVertex | linked isVertex =>
    have hasVertex : shader.vertex.isSome := isVertex ▸ rfl
    exact ⟨limits_eq, formatOverride_eq, isPrepared, fun _ => hasVertex⟩

/-- Every call keeps a shader founded. -/
theorem Founded.perform (founded : Founded compiler limits format shader) (call : Call) :
    Founded compiler limits format (shader.perform compiler call).shader := by
  cases call with
  | prepare => exact founded.prepare
  | load workspace entry => exact founded.load (shader.load_ends compiler workspace entry)
  | reload workspace =>
    rw [Shader.perform, reload]
    split
    · exact founded.load (shader.load_ends compiler workspace _)
    · exact founded

/-- Every shader that can be reached is founded. -/
theorem Reached.founded (reached : Reached compiler limits format shader) :
    Founded compiler limits format shader := by
  obtain ⟨backend, calls, rfl⟩ := reached
  suffices ∀ start, Founded compiler limits format start →
      Founded compiler limits format (start.after compiler calls) from
    this _ (founded_new compiler backend limits format)
  induction calls with
  | nil => exact fun _ founded => founded
  | cons call rest inductionHypothesis =>
    exact fun start founded => inductionHypothesis _ (founded.perform call)

/-! ## Loads that end alike -/

/-- One load ended as another, but for the compiler's state. The program is the other's if
the load succeeded, and the one from before if it failed. -/
structure EndsAs (outcome fresh : LoadOutcome State Compiled Program) (before : Option Program) :
    Prop where
  result_eq : outcome.result = fresh.result
  state_eq : outcome.shader.state = fresh.shader.state
  resolution_eq : outcome.shader.resolution = fresh.shader.resolution
  stamps_eq : outcome.shader.stamps = fresh.shader.stamps
  lastReport_eq : outcome.shader.lastReport = fresh.shader.lastReport
  entry_eq : outcome.shader.entry = fresh.shader.entry
  signals_eq : outcome.signals = fresh.signals
  program_of_ok : outcome.result = .ok ⟨⟩ → outcome.shader.program = fresh.shader.program
  program_of_error : ∀ failure, outcome.result = .error failure → outcome.shader.program = before

/-- Shaders that are set up alike make the same known during a load. -/
theorem SameSetup.load_signals (setup : shader.SameSetup other) (pure : compiler.IsPure)
    (workspace : Workspace) (entry : Path) :
    (shader.load compiler workspace entry).signals =
      (other.load compiler workspace entry).signals := by
  have result_eq := Workspace.build_result_eq pure workspace shader.backend other.backend entry
    .fragment other.limits (other.format compiler)
  simp only [load, setup.vertex_eq, setup.limits_eq, setup.format_eq, result_eq,
    Workspace.build_journal]
  cases other.vertex with
  | none => rfl
  | some vertex =>
    rcases workspace.build_cases compiler other.backend entry .fragment other.limits
      (other.format compiler) with ⟨failure, -, result⟩ | ⟨resolution, raw, -, -, result⟩ |
        ⟨build, -, result⟩ <;> simp only [result]
    -- Only here the compiler is asked again, in a state that the histories decide.
    have link_eq := pure.2
      (workspace.build compiler shader.backend entry .fragment other.limits
        (other.format compiler)).state
      (workspace.build compiler other.backend entry .fragment other.limits
        (other.format compiler)).state vertex build.compiled
    generalize compiler.link (workspace.build compiler shader.backend entry .fragment other.limits
      (other.format compiler)).state vertex build.compiled = first at link_eq ⊢
    generalize compiler.link (workspace.build compiler other.backend entry .fragment other.limits
      (other.format compiler)).state vertex build.compiled = second at link_eq ⊢
    obtain ⟨answer, next⟩ := first
    obtain ⟨_, otherNext⟩ := second
    obtain rfl : answer = _ := link_eq
    cases answer <;> rfl

/-- With a pure compiler a load of a shader that was set up alike ends alike. -/
theorem SameSetup.endsAs (setup : shader.SameSetup other) (pure : compiler.IsPure)
    {vertex : Compiled} (isVertex : other.vertex = some vertex) (workspace : Workspace)
    (entry : Path) :
    EndsAs (shader.load compiler workspace entry) (other.load compiler workspace entry)
      shader.program := by
  have same : other.SameSetup other := ⟨rfl, rfl, rfl⟩
  have isPrepared := setup.vertex_eq.trans isVertex
  obtain ⟨shows, result_eq⟩ := setup.load_shows pure isVertex other.backend workspace entry
  obtain ⟨freshShows, freshResult_eq⟩ :=
    same.load_shows pure isVertex other.backend workspace entry
  constructor
  · exact result_eq.trans freshResult_eq.symm
  · exact shows.state_eq.trans freshShows.state_eq.symm
  · exact shows.resolution_eq.trans freshShows.resolution_eq.symm
  · exact shows.stamps_eq.trans freshShows.stamps_eq.symm
  · exact shows.lastReport_eq.trans freshShows.lastReport_eq.symm
  · exact (load_setup isPrepared compiler workspace entry).2.trans
      (load_setup isVertex compiler workspace entry).2.symm
  · exact setup.load_signals pure workspace entry
  · intro isOk
    obtain ⟨program, settled⟩ := exists_program_of_settle (result_eq.symm.trans isOk)
    exact (shows.program_eq program settled).trans (freshShows.program_eq program settled).symm
  · intro failure failed
    exact (shader.load_ends compiler workspace entry).program_of_error failed

/-! ## Reloads -/

/-- A reload of a shader that went through any calls, and has an entry, ends as the load of
that entry by a fresh shader with the same limits and the same format does. An entry is only
there once the vertex stage was compiled, and then the fresh shader compiles it as well. -/
theorem reload_endsAs_fresh (pure : compiler.IsPure)
    (reached : Reached compiler limits format shader) (hasEntry : shader.entry = some entry)
    (workspace : Workspace) (backend : State) :
    ((new backend limits format).prepare compiler).result = .ok ⟨⟩ ∧
      EndsAs (shader.reload compiler workspace)
        (((new backend limits format).prepare compiler).shader.load compiler workspace entry)
        shader.program := by
  have founded := reached.founded
  have isPrepared := founded.isPrepared (founded.entered (hasEntry ▸ rfl))
  have setup := fresh_sameSetup pure isPrepared backend
  rw [fresh, founded.limits_eq, founded.formatOverride_eq] at setup
  obtain ⟨state, vertex, compiled, isVertex⟩ := isPrepared
  constructor
  · rw [pure.1 state backend] at compiled
    exact prepare_result (new backend limits format) compiled
  · rw [reload, hasEntry]
    exact setup.symm.endsAs pure (setup.vertex_eq.trans isVertex) workspace entry

/-- A compiler that refuses every fragment with a `z`. -/
def refusing : Compiler Unit Unit Unit where
  name := "refusing"
  format := .paren
  compile _ source stage :=
    if stage = .fragment ∧ 'z' ∈ source.toList then (.error "0(3) : error: no z\n", ())
    else (.ok (), ())
  link _ _ _ := (.ok (), ())

/-- The entangled files without the line `z`. -/
def mended : Workspace :=
  Workspace.entangled.write Workspace.Entangled.low ⟨"y\n#include \"../top\"\n".toUTF8, 9⟩

/-- A shader that was loaded too early, then from nowhere, and then from files that its
compiler refuses. -/
def stumbled : Shader Unit Unit Unit :=
  (new () .standard none).after refusing
    [.load .entangled ⟨"top"⟩, .prepare, .load .entangled ⟨"nowhere"⟩, .load .entangled ⟨"top"⟩]

/-- The shader holds a report, and once the line is gone it reloads as a fresh shader loads. -/
theorem reload_endsAs_fresh_stumbled : stumbled.entry = some ⟨"top"⟩ ∧
    stumbled.lastReport.isSome ∧ (stumbled.reload refusing mended).result = .ok ⟨⟩ ∧
      EndsAs (stumbled.reload refusing mended)
        (((new () .standard none).prepare refusing).shader.load refusing mended ⟨"top"⟩)
        stumbled.program := by
  have pure : refusing.IsPure := ⟨fun _ _ _ _ => rfl, fun _ _ _ _ => rfl⟩
  have reached : Reached refusing .standard none stumbled := ⟨_, _, rfl⟩
  have hasEntry : stumbled.entry = some ⟨"top"⟩ := by decide +kernel
  refine ⟨hasEntry, by decide +kernel, by decide +kernel, ?_⟩
  exact (reload_endsAs_fresh pure reached hasEntry mended ()).2

end LiveShader.Shader
