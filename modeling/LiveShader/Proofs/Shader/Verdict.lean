import LiveShader.Proofs.Shader.Reloading

/-!
# Whether the last call failed

`lastLoadFailed` describes a shader and not a call. After a load, and after a reload of an
entry, it says how that call ended. A reload without an entry is no load: it returns ok and
leaves the flag to the loads before it, all of which were refused for want of a vertex stage.
-/

namespace LiveShader

/-- The call names an entry to load. -/
def Call.isLoad : Call → Bool
  | .load .. => true
  | .prepare | .reload _ => false

namespace Shader

variable {State Compiled Program : Type} {shader : Shader State Compiled Program}
  {compiler : Compiler State Compiled Program} {workspace : Workspace} {entry : Path}

/-- After an operation the flag is set exactly if the operation failed. -/
def IsTruthful (outcome : LoadOutcome State Compiled Program) : Prop :=
  outcome.shader.lastLoadFailed = true ↔ ∃ failure, outcome.result = .error failure

/-- However a load ends, the flag tells. -/
theorem Ends.isTruthful {outcome : LoadOutcome State Compiled Program}
    (ends : shader.Ends compiler workspace entry outcome) : IsTruthful outcome := by
  unfold IsTruthful
  cases ends with
  | linked => simp [lastLoadFailed]
  | unprepared | unresolved | refused | unlinked => simp [lastLoadFailed]

/-! ## Shaders without an entry -/

/-- How the loads among calls end, in their order. -/
def loadResults (shader : Shader State Compiled Program)
    (compiler : Compiler State Compiled Program) : List Call → List (Except LoadFailure PUnit)
  | [] => []
  | call :: rest =>
    let outcome := shader.perform compiler call
    (if call.isLoad then [outcome.result] else []) ++ outcome.shader.loadResults compiler rest

/-- While a shader has no entry, its flag says whether there was a load, and all loads were
refused for want of a vertex stage. -/
def RefusedSoFar (shader : Shader State Compiled Program)
    (loads : List (Except LoadFailure PUnit)) : Prop :=
  shader.entry = none →
    shader.lastLoadFailed = !loads.isEmpty ∧ ∀ result ∈ loads, result = .error .notInitialized

variable {loads : List (Except LoadFailure PUnit)}

/-- A new shader was asked for nothing. -/
theorem refusedSoFar_new (backend : State) (limits : ResolutionLimits)
    (format : Option DiagnosticFormat) :
    (new backend limits format : Shader State Compiled Program).RefusedSoFar [] :=
  fun _ => ⟨rfl, List.forall_mem_nil _⟩

/-- A load that leaves a shader without an entry was refused, as were those before. -/
theorem RefusedSoFar.load {outcome : LoadOutcome State Compiled Program}
    (refused : shader.RefusedSoFar loads)
    (ends : shader.Ends compiler workspace entry outcome) :
    outcome.shader.RefusedSoFar (loads ++ [outcome.result]) := by
  intro noEntry
  cases ends with
  | unprepared =>
    obtain ⟨-, allRefused⟩ := refused noEntry
    refine ⟨by simp [lastLoadFailed], List.forall_mem_append.2 ⟨allRefused, ?_⟩⟩
    exact List.forall_mem_singleton.2 rfl
  | unresolved | refused | unlinked | linked => cases noEntry

/-- No load takes away an entry. -/
theorem Ends.entry_ne_none {outcome : LoadOutcome State Compiled Program}
    (ends : shader.Ends compiler workspace entry outcome) (hasEntry : shader.entry ≠ none) :
    outcome.shader.entry ≠ none := by
  cases ends with
  | unprepared => exact hasEntry
  | unresolved | refused | unlinked | linked => nofun

/-- After one more call all loads were refused, if there is still no entry. -/
theorem RefusedSoFar.perform (refused : shader.RefusedSoFar loads)
    (compiler : Compiler State Compiled Program) (call : Call) :
    (shader.perform compiler call).shader.RefusedSoFar
      (loads ++ if call.isLoad then [(shader.perform compiler call).result] else []) := by
  cases call with
  | prepare =>
    have same : (shader.perform compiler .prepare).shader.SameLoad shader :=
      (perform_of_unrequested rfl).1
    intro noEntry
    rw [lastLoadFailed, same.state_eq, Call.isLoad, if_neg Bool.false_ne_true, List.append_nil]
    exact refused (same.entry_eq ▸ noEntry)
  | load workspace entry => exact refused.load (shader.load_ends compiler workspace entry)
  | reload workspace =>
    rw [Shader.perform, reload, Call.isLoad, if_neg Bool.false_ne_true, List.append_nil]
    split
    · -- The entry stays, so nothing is said of the flag.
      rename_i entry hasEntry
      intro noEntry
      have ends := shader.load_ends compiler workspace entry
      exact absurd noEntry (ends.entry_ne_none (by simp [hasEntry]))
    · exact refused

/-- After calls all loads were refused, if there is still no entry. -/
theorem RefusedSoFar.after (refused : shader.RefusedSoFar loads)
    (compiler : Compiler State Compiled Program) (calls : List Call) :
    (shader.after compiler calls).RefusedSoFar (loads ++ shader.loadResults compiler calls) := by
  induction calls generalizing shader loads with
  | nil =>
    rw [loadResults, List.append_nil]
    exact refused
  | cons call rest inductionHypothesis =>
    rw [loadResults, ← List.append_assoc]
    exact inductionHypothesis (refused.perform compiler call)

/-! ## After every call -/

/-- What the flag of a shader says after its next load or reload, if its loads so far ended in
these ways. A reload without an entry does nothing, and finds the flag as the loads left it, all
of which were refused. -/
structure FlagTells (shader : Shader State Compiled Program)
    (compiler : Compiler State Compiled Program) (loads : List (Except LoadFailure PUnit)) :
    Prop where
  load : ∀ workspace entry, IsTruthful (shader.load compiler workspace entry)
  reload : shader.entry.isSome → ∀ workspace, IsTruthful (shader.reload compiler workspace)
  idle : shader.entry = none → ∀ workspace,
    shader.reload compiler workspace = ⟨shader, .ok ⟨⟩, []⟩
  flag_eq : shader.entry = none → shader.lastLoadFailed = !loads.isEmpty
  refused : shader.entry = none → ∀ result ∈ loads, result = .error .notInitialized

/-- Whatever calls a shader went through, the flag says how the next load ends, and how the
next reload ends if there is an entry. Without one a reload returns ok and changes nothing, the
flag is set exactly if there was a load before, and every load was refused. -/
theorem flagTells_after (compiler : Compiler State Compiled Program) (backend : State)
    (limits : ResolutionLimits) (format : Option DiagnosticFormat) (calls : List Call) :
    ((new backend limits format).after compiler calls).FlagTells compiler
      ((new backend limits format).loadResults compiler calls) := by
  have refused := (refusedSoFar_new backend limits format).after compiler calls
  rw [List.nil_append] at refused
  generalize (new backend limits format).after compiler calls = shader at refused
  refine ⟨fun workspace entry => ?_, fun hasEntry workspace => ?_, fun noEntry workspace => ?_,
    fun noEntry => (refused noEntry).1, fun noEntry => (refused noEntry).2⟩
  · exact (shader.load_ends compiler workspace entry).isTruthful
  · obtain ⟨entry, isEntry⟩ := Option.isSome_iff_exists.1 hasEntry
    rw [Shader.reload, isEntry]
    exact (shader.load_ends compiler workspace entry).isTruthful
  · rw [Shader.reload, noEntry]

/-- A shader that was asked to load before its vertex stage was compiled. -/
def hasty : Shader Unit Unit Unit :=
  (new () .standard none).after refusing [.load .entangled ⟨"top"⟩]

/-- Its reload returns ok, and yet the flag is set. -/
theorem flag_misleads_hasty : (hasty.reload refusing .entangled).result = .ok ⟨⟩ ∧
    ¬ IsTruthful (hasty.reload refusing .entangled) := by
  have isOk : (hasty.reload refusing .entangled).result = .ok ⟨⟩ := rfl
  refine ⟨isOk, fun isTruthful => ?_⟩
  obtain ⟨failure, failed⟩ := isTruthful.1 rfl
  rw [isOk] at failed
  cases failed

end Shader

end LiveShader
