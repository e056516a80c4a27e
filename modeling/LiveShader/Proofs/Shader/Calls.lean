import LiveShader.Proofs.Resolution.Attribution
import LiveShader.Proofs.Shader.Build
import LiveShader.Shader

/-!
# Shaders between calls

A shader is prepared, loaded and reloaded in any order, while files change and whatever
its compiler answers. `Shader.load_ends` says all that one load can do. From it follow what
holds of the fields after every call (`Consistent`), whose program a shader holds
(`programs`), and what a call reports (`Answers`).
-/

namespace LiveShader

/-- A call on a shader, with the files as they are then. -/
inductive Call where
  | prepare
  | load (workspace : Workspace) (entry : Path)
  | reload (workspace : Workspace)

namespace Shader

variable {State Compiled Program : Type}

/-! ## How a load ends -/

/-- The program that an entry gives, once it is resolved, compiled and linked. -/
def linked? (shader : Shader State Compiled Program)
    (compiler : Compiler State Compiled Program) (workspace : Workspace) (entry : Path) :
    Option Program :=
  let attempt :=
    workspace.build compiler shader.backend entry .fragment shader.limits (shader.format compiler)
  match shader.vertex, attempt.result with
  | some vertex, .ok build => (compiler.link attempt.state vertex build.compiled).1.toOption
  | _, _ => none

/-- The ways in which a load can end. What a way does not mention stays as it was. -/
inductive Ends (shader : Shader State Compiled Program)
    (compiler : Compiler State Compiled Program) (workspace : Workspace) (entry : Path) :
    LoadOutcome State Compiled Program → Prop where
  | unprepared (unprepared : shader.vertex = none) :
      Ends shader compiler workspace entry
        ⟨{ shader with state := .failed }, .error .notInitialized,
          failureSignals [] LoadFailure.notInitialized.message⟩
  | unresolved {vertex failure next journal} (isPrepared : shader.vertex = some vertex)
      (failed : workspace.resolve entry shader.limits = .error failure) :
      Ends shader compiler workspace entry
        ⟨{ shader with
            backend := next
            state := .failed
            entry := some entry
            resolution := none
            stamps := failure.stamps
            lastReport := none },
          .error (.resolve failure.error), failureSignals journal failure.error.message⟩
  | refused {vertex resolution report next journal} (isPrepared : shader.vertex = some vertex)
      (resolved : workspace.resolve entry shader.limits = .ok resolution) :
      Ends shader compiler workspace entry
        ⟨{ shader with
            backend := next
            state := .failed
            entry := some entry
            resolution := some resolution
            stamps := resolution.provenance.stamps
            lastReport := some report },
          .error (.compile report.count), failureSignals journal report.text⟩
  | unlinked {vertex resolution message next journal} (isPrepared : shader.vertex = some vertex)
      (resolved : workspace.resolve entry shader.limits = .ok resolution) :
      Ends shader compiler workspace entry
        ⟨{ shader with
            backend := next
            state := .failed
            entry := some entry
            resolution := some resolution
            stamps := resolution.provenance.stamps
            lastReport := none },
          .error (.link message),
          failureSignals journal ("Cannot link shader program => " ++ message)⟩
  | linked {vertex resolution program next} {journal : List Journal.Entry}
      (isPrepared : shader.vertex = some vertex)
      (resolved : workspace.resolve entry shader.limits = .ok resolution)
      (isLinked : shader.linked? compiler workspace entry = some program) :
      Ends shader compiler workspace entry
        ⟨{ shader with
            backend := next
            state := .compiled
            entry := some entry
            resolution := some resolution
            stamps := resolution.provenance.stamps
            lastReport := none
            program := some program },
          .ok ⟨⟩, journal.map .note⟩

/-- Every load ends in one of these ways. -/
theorem load_ends (shader : Shader State Compiled Program)
    (compiler : Compiler State Compiled Program) (workspace : Workspace) (entry : Path) :
    shader.Ends compiler workspace entry (shader.load compiler workspace entry) := by
  unfold load
  split
  · rename_i unprepared
    exact .unprepared unprepared
  · rename_i vertex isPrepared
    rcases workspace.build_cases compiler shader.backend entry .fragment shader.limits
      (shader.format compiler) with ⟨failure, failed, result⟩ |
        ⟨resolution, raw, resolved, -, result⟩ | ⟨build, resolved, result⟩ <;> simp only [result]
    · exact .unresolved isPrepared failed
    · exact .refused isPrepared resolved
    · split
      · rename_i program next answer
        refine .linked isPrepared resolved ?_
        simp only [linked?, isPrepared, result, answer]
        rfl
      · exact .unlinked isPrepared resolved

/-! ## Calls -/

/-- Carry out a call. -/
def perform (shader : Shader State Compiled Program)
    (compiler : Compiler State Compiled Program) : Call → LoadOutcome State Compiled Program
  | .prepare => shader.prepare compiler
  | .load workspace entry => shader.load compiler workspace entry
  | .reload workspace => shader.reload compiler workspace

/-- The load that a call asks for. A reload asks for one if there was an entry. -/
def requested? (shader : Shader State Compiled Program) : Call → Option (Workspace × Path)
  | .prepare => none
  | .load workspace entry => some (workspace, entry)
  | .reload workspace => shader.entry.map fun entry => (workspace, entry)

/-- The shader after calls. -/
def after (shader : Shader State Compiled Program) (compiler : Compiler State Compiled Program)
    (calls : List Call) : Shader State Compiled Program :=
  calls.foldl (fun current call => (current.perform compiler call).shader) shader

/-- The program that a call makes: the one that its load links, if that load returns ok. -/
def made? (shader : Shader State Compiled Program) (compiler : Compiler State Compiled Program)
    (call : Call) : Option Program :=
  match shader.requested? call, (shader.perform compiler call).result with
  | some (workspace, entry), .ok _ => shader.linked? compiler workspace entry
  | _, _ => none

/-- The programs that calls make, in their order. -/
def programs (shader : Shader State Compiled Program)
    (compiler : Compiler State Compiled Program) : List Call → List Program
  | [] => []
  | call :: rest =>
    (shader.made? compiler call).toList ++
      (shader.perform compiler call).shader.programs compiler rest

/-- Two shaders hold the same on the last load. -/
structure SameLoad (first second : Shader State Compiled Program) : Prop where
  state_eq : first.state = second.state
  entry_eq : first.entry = second.entry
  program_eq : first.program = second.program
  resolution_eq : first.resolution = second.resolution
  stamps_eq : first.stamps = second.stamps
  lastReport_eq : first.lastReport = second.lastReport

variable {shader : Shader State Compiled Program} {compiler : Compiler State Compiled Program}
  {call : Call} {workspace : Workspace} {entry : Path}

/-- A journal is no notice. -/
@[simp] theorem notices_notes (journal : List Journal.Entry) :
    Signal.notices (journal.map .note) = [] := by
  simp [Signal.notices, List.filterMap_map]

/-- A failure gives notice of its message, and of nothing else. -/
@[simp] theorem notices_failureSignals (journal : List Journal.Entry) (message : String) :
    Signal.notices (failureSignals journal message) = [⟨.error, message⟩] := by
  simp [Signal.notices, failureSignals, List.filterMap_map]

/-- Where a call asks for a load, it is that load. -/
theorem perform_of_requested (requested : shader.requested? call = some (workspace, entry)) :
    shader.perform compiler call = shader.load compiler workspace entry := by
  cases call with
  | prepare => cases requested
  | load workspace entry =>
    obtain ⟨rfl, rfl⟩ := Prod.mk.inj (Option.some.inj requested)
    rfl
  | reload workspace =>
    obtain ⟨last, hasEntry, same⟩ := Option.map_eq_some_iff.1 requested
    obtain ⟨rfl, rfl⟩ := Prod.mk.inj same
    rw [perform, reload, hasEntry]

/-- Where a call asks for no load, nothing changes about the last one, and nothing is
reported. -/
theorem perform_of_unrequested (unrequested : shader.requested? call = none) :
    (shader.perform compiler call).shader.SameLoad shader ∧
      Signal.notices (shader.perform compiler call).signals = [] := by
  cases call with
  | load => cases unrequested
  | prepare =>
    simp only [perform, prepare]
    split <;> exact ⟨⟨rfl, rfl, rfl, rfl, rfl, rfl⟩, rfl⟩
  | reload workspace =>
    have noEntry : shader.entry = none := Option.map_eq_none_iff.1 unrequested
    simp only [perform, reload, noEntry]
    exact ⟨⟨rfl, rfl, rfl, rfl, rfl, rfl⟩, rfl⟩

/-! ## What holds after every call -/

/-- What holds of a shader between calls: no load is under way, and the fields agree. The
unit and its provenance are one field, so they come and go together. -/
structure Consistent (shader : Shader State Compiled Program) : Prop where
  settled : shader.state = .empty ∨ shader.state = .compiled ∨ shader.state = .failed
  compiled : shader.state = .compiled → shader.entry.isSome ∧ shader.program.isSome ∧
    shader.resolution.isSome ∧ shader.lastReport = none
  reported : shader.lastReport.isSome → shader.state = .failed ∧ shader.resolution.isSome
  stamped : ∀ resolution, shader.resolution = some resolution →
    resolution.unit.lineCount = resolution.provenance.totalLines ∧
      shader.stamps = resolution.provenance.stamps

/-- A new shader is consistent. -/
theorem consistent_new (backend : State) (limits : ResolutionLimits)
    (format : Option DiagnosticFormat) :
    (new backend limits format : Shader State Compiled Program).Consistent where
  settled := .inl rfl
  compiled := nofun
  reported := nofun
  stamped := nofun

/-- A shader with the same load as a consistent one is consistent. -/
theorem Consistent.of_sameLoad {other : Shader State Compiled Program}
    (consistent : shader.Consistent) (same : other.SameLoad shader) : other.Consistent := by
  obtain ⟨state_eq, entry_eq, program_eq, resolution_eq, stamps_eq, lastReport_eq⟩ := same
  constructor
  · rw [state_eq]
    exact consistent.settled
  · rw [state_eq, entry_eq, program_eq, resolution_eq, lastReport_eq]
    exact consistent.compiled
  · rw [state_eq, resolution_eq, lastReport_eq]
    exact consistent.reported
  · rw [resolution_eq, stamps_eq]
    exact consistent.stamped

/-- What a load keeps of a resolution: as many lines as its provenance, and its stamps. -/
theorem stamped_of_resolve {limits : ResolutionLimits} {resolution : Resolution}
    (resolved : workspace.resolve entry limits = .ok resolution) :
    ∀ kept, some resolution = some kept →
      kept.unit.lineCount = kept.provenance.totalLines ∧
        resolution.provenance.stamps = kept.provenance.stamps := by
  rintro _ ⟨⟩
  obtain ⟨course⟩ := Workspace.resolve_ok_iff.1 resolved
  exact ⟨course.totalLines_eq.symm, rfl⟩

/-- However a load ends, it leaves the fields in agreement. -/
theorem Consistent.load {outcome : LoadOutcome State Compiled Program}
    (consistent : shader.Consistent) (ends : shader.Ends compiler workspace entry outcome) :
    outcome.shader.Consistent := by
  cases ends with
  | unprepared =>
    exact ⟨.inr (.inr rfl), nofun, fun hasReport => ⟨rfl, (consistent.reported hasReport).2⟩,
      consistent.stamped⟩
  | unresolved isPrepared failed => exact ⟨.inr (.inr rfl), nofun, nofun, nofun⟩
  | refused isPrepared resolved =>
    exact ⟨.inr (.inr rfl), nofun, fun _ => ⟨rfl, rfl⟩, stamped_of_resolve resolved⟩
  | unlinked isPrepared resolved =>
    exact ⟨.inr (.inr rfl), nofun, nofun, stamped_of_resolve resolved⟩
  | linked isPrepared resolved isLinked =>
    exact ⟨.inr (.inl rfl), fun _ => ⟨rfl, rfl, rfl, rfl⟩, nofun, stamped_of_resolve resolved⟩

/-- Every call keeps a shader consistent. -/
theorem Consistent.perform (consistent : shader.Consistent)
    (compiler : Compiler State Compiled Program) (call : Call) :
    (shader.perform compiler call).shader.Consistent := by
  cases requested : shader.requested? call with
  | none => exact consistent.of_sameLoad (perform_of_unrequested requested).1
  | some load =>
    obtain ⟨workspace, entry⟩ := load
    rw [perform_of_requested requested]
    exact consistent.load (shader.load_ends compiler workspace entry)

/-- Calls one after the other keep a shader consistent. -/
theorem Consistent.after (consistent : shader.Consistent)
    (compiler : Compiler State Compiled Program) (calls : List Call) :
    (shader.after compiler calls).Consistent := by
  induction calls generalizing shader with
  | nil => exact consistent
  | cons call rest inductionHypothesis =>
    exact inductionHypothesis (consistent.perform compiler call)

/-! ## Whose program it is -/

/-- A load that returns ok replaces the program by the one that it linked. Any other keeps
the program. -/
theorem Ends.program_eq {outcome : LoadOutcome State Compiled Program}
    (ends : shader.Ends compiler workspace entry outcome) :
    (outcome.result = .ok ⟨⟩ ∧ ∃ program, shader.linked? compiler workspace entry = some program ∧
      outcome.shader.program = some program) ∨
    (∃ failure, outcome.result = .error failure) ∧ outcome.shader.program = shader.program := by
  cases ends with
  | linked isPrepared resolved isLinked => exact .inl ⟨rfl, _, isLinked, rfl⟩
  | unprepared | unresolved | refused | unlinked => exact .inr ⟨⟨_, rfl⟩, rfl⟩

/-- A load that fails keeps the program. -/
theorem Ends.program_of_error {outcome : LoadOutcome State Compiled Program}
    (ends : shader.Ends compiler workspace entry outcome) {failure : LoadFailure}
    (failed : outcome.result = .error failure) : outcome.shader.program = shader.program := by
  rcases ends.program_eq with ⟨isOk, -⟩ | ⟨-, program_eq⟩
  · rw [isOk] at failed
    cases failed
  · exact program_eq

/-- After a call a shader holds the program that it makes, or else the one from before. -/
theorem program_perform (shader : Shader State Compiled Program)
    (compiler : Compiler State Compiled Program) (call : Call) :
    (shader.perform compiler call).shader.program =
      (shader.made? compiler call).or shader.program := by
  unfold made?
  cases requested : shader.requested? call with
  | none => exact (perform_of_unrequested requested).1.program_eq
  | some load =>
    obtain ⟨workspace, entry⟩ := load
    rw [perform_of_requested requested]
    rcases (shader.load_ends compiler workspace entry).program_eq with
      ⟨isOk, program, isLinked, program_eq⟩ | ⟨⟨failure, isError⟩, program_eq⟩
    · simp only [isOk, program_eq, isLinked, Option.some_or]
    · simp only [isError, program_eq, Option.none_or]

/-- After calls a shader holds the last program that they made. -/
theorem program_after (shader : Shader State Compiled Program)
    (compiler : Compiler State Compiled Program) (calls : List Call) :
    (shader.after compiler calls).program =
      (shader.programs compiler calls).getLast?.or shader.program := by
  induction calls generalizing shader with
  | nil => rfl
  | cons call rest inductionHypothesis =>
    have single : (shader.made? compiler call).toList.getLast? = shader.made? compiler call := by
      cases shader.made? compiler call <;> rfl
    rw [programs, List.getLast?_append, single, Option.or_assoc, ← program_perform]
    exact inductionHypothesis (shader.perform compiler call).shader

/-! ## What a call reports -/

/-- What a call answers: a failure keeps the program. A load reports one error if it fails,
and nothing otherwise, and no other call reports anything. -/
structure Answers (shader : Shader State Compiled Program)
    (compiler : Compiler State Compiled Program) (call : Call) : Prop where
  keeps : ∀ failure, (shader.perform compiler call).result = .error failure →
    (shader.perform compiler call).shader.program = shader.program
  quiet : (shader.perform compiler call).result = .ok ⟨⟩ ∨ shader.requested? call = none →
    Signal.notices (shader.perform compiler call).signals = []
  complains : ∀ failure, shader.requested? call ≠ none →
    (shader.perform compiler call).result = .error failure →
      ∃ message, Signal.notices (shader.perform compiler call).signals = [⟨.error, message⟩]

/-- A load that fails reports one error, and one that succeeds reports nothing. -/
theorem Ends.notices_eq {outcome : LoadOutcome State Compiled Program}
    (ends : shader.Ends compiler workspace entry outcome) :
    outcome.result = .ok ⟨⟩ ∧ Signal.notices outcome.signals = [] ∨
      (∃ failure, outcome.result = .error failure) ∧
        ∃ message, Signal.notices outcome.signals = [⟨.error, message⟩] := by
  cases ends with
  | linked => exact .inl ⟨rfl, notices_notes _⟩
  | unprepared | unresolved | refused | unlinked =>
    exact .inr ⟨⟨_, rfl⟩, _, notices_failureSignals _ _⟩

/-- Every call answers as it should, whatever the shader is. -/
theorem answers (shader : Shader State Compiled Program)
    (compiler : Compiler State Compiled Program) (call : Call) : shader.Answers compiler call := by
  cases requested : shader.requested? call with
  | none =>
    obtain ⟨same, silent⟩ : (shader.perform compiler call).shader.SameLoad shader ∧ _ :=
      perform_of_unrequested requested
    exact ⟨fun _ _ => same.program_eq, fun _ => silent, fun _ asks => absurd requested asks⟩
  | some load =>
    obtain ⟨workspace, entry⟩ := load
    have ends := shader.load_ends compiler workspace entry
    rw [← perform_of_requested requested] at ends
    constructor
    · intro failure failed
      exact ends.program_of_error failed
    · intro quiet
      rcases ends.notices_eq with ⟨-, silent⟩ | ⟨⟨failure, failed⟩, -⟩
      · exact silent
      · rcases quiet with isOk | unrequested
        · rw [failed] at isOk
          cases isOk
        · rw [requested] at unrequested
          cases unrequested
    · intro failure _ failed
      rcases ends.notices_eq with ⟨isOk, -⟩ | ⟨-, complaint⟩
      · rw [isOk] at failed
        cases failed
      · exact complaint

/-- Whatever calls a shader went through, its fields agree, its program is the last that a
load linked and returned ok with, and the next call answers as it should. -/
theorem consistent_after (compiler : Compiler State Compiled Program) (backend : State)
    (limits : ResolutionLimits) (format : Option DiagnosticFormat) (calls : List Call) :
    ((new backend limits format).after compiler calls).Consistent ∧
      ((new backend limits format).after compiler calls).program =
        ((new backend limits format).programs compiler calls).getLast? ∧
      ∀ call, ((new backend limits format).after compiler calls).Answers compiler call := by
  refine ⟨(consistent_new backend limits format).after compiler calls, ?_,
    fun call => answers _ _ _⟩
  rw [program_after]
  exact Option.or_none

end Shader

end LiveShader
