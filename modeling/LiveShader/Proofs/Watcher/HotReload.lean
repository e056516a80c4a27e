import LiveShader.Proofs.Shader.Loading
import LiveShader.Watcher

/-!
# Ticks agree with loads from nothing

A watcher is loaded once, and then regular files change and ticks are taken in any order.
After each tick its shader is as a fresh shader would be that loads the entry now: a tick
that reloads has just done so, and one that is idle is justified by the stamps.
-/

namespace LiveShader

variable {State Compiled Program : Type} {compiler : Compiler State Compiled Program}
  {shader initial : Shader State Compiled Program} {entry : Path} {workspace : Workspace}

namespace Shader

/-- A shader is as it was loaded at a moment. -/
structure Follows (shader : Shader State Compiled Program)
    (compiler : Compiler State Compiled Program) (initial : Shader State Compiled Program)
    (entry : Path) (moment : Workspace) : Prop where
  setup : shader.SameSetup initial
  entry_eq : shader.entry = some entry
  shows : ∀ state vertex, initial.vertex = some vertex →
    shader.Shows (settle compiler state vertex (initial.format compiler)
      (moment.resolve entry initial.limits))

/-- A load makes a shader follow the moment. -/
theorem SameSetup.load_follows (setup : shader.SameSetup initial) (pure : compiler.IsPure)
    (isPrepared : initial.IsPrepared compiler) (workspace : Workspace) (entry : Path) :
    (shader.load compiler workspace entry).shader.Follows compiler initial entry workspace := by
  obtain ⟨_, vertex, -, isVertex⟩ := isPrepared
  obtain ⟨kept, entry_eq⟩ :=
    Shader.load_setup (setup.vertex_eq.trans isVertex) compiler workspace entry
  exact ⟨kept.trans setup, entry_eq, fun state vertex isVertex =>
    (setup.load_shows pure isVertex state workspace entry).1⟩

/-- A shader that follows a moment agrees with every load then. -/
theorem Follows.agrees {other : Shader State Compiled Program} {moment : Workspace}
    (follows : shader.Follows compiler initial entry moment) (setup : other.SameSetup initial)
    (pure : compiler.IsPure) (isPrepared : initial.IsPrepared compiler) :
    shader.Agrees (other.load compiler moment entry) := by
  obtain ⟨state, vertex, -, isVertex⟩ := isPrepared
  obtain ⟨loaded, result_eq⟩ := setup.load_shows pure isVertex state moment entry
  exact agrees_of_shows (follows.shows state vertex isVertex) loaded result_eq

/-- While it is not outdated, a shader that follows an earlier moment agrees with every
load now. -/
theorem Follows.agrees_later {other : Shader State Compiled Program} {before after : Workspace}
    (follows : shader.Follows compiler initial entry before) (setup : other.SameSetup initial)
    (pure : compiler.IsPure) (isPrepared : initial.IsPrepared compiler)
    (precedes : before.Precedes after) (upToDate : shader.isOutdated after = false) :
    shader.Agrees (other.load compiler after entry) := by
  obtain ⟨state, vertex, -, isVertex⟩ := isPrepared
  have shows := follows.shows state vertex isVertex
  obtain ⟨loaded, result_eq⟩ := setup.load_shows pure isVertex state after entry
  have fresh : after.AllFresh (before.resolveStamps entry initial.limits) := by
    rw [← settle_stamps, ← shows.stamps_eq]
    simpa [isOutdated, Workspace.AllFresh] using upToDate
  rcases precedes.resolve_persists fresh with
    ⟨resolution, resolved, resolvedNow⟩ | ⟨failure, failure', failed, failedNow⟩
  · rw [resolved, ← resolvedNow] at shows
    exact agrees_of_shows shows loaded result_eq
  · rw [failed] at shows
    rw [failedNow] at result_eq
    exact agrees_of_failures shows result_eq

end Shader

namespace Watcher

/-- Runs of a watcher, with the moments they went through, the last one first: a shader is
loaded, then regular files change and ticks are taken, whichever directories the system is
willing to watch. -/
inductive Runs (compiler : Compiler State Compiled Program)
    (initial : Shader State Compiled Program) (entry : Path) :
    List Workspace → Watcher State Compiled Program → Prop where
  | loaded (workspace : Workspace) (directories : List Path) :
      Runs compiler initial entry [workspace]
        ⟨(initial.load compiler workspace entry).shader, directories⟩
  | edited {now next past watcher} (run : Runs compiler initial entry (now :: past) watcher)
      (frame : now.SameFrame next) : Runs compiler initial entry (next :: now :: past) watcher
  | ticked {now past watcher} (run : Runs compiler initial entry (now :: past) watcher)
      (notifier : Notifier) :
      Runs compiler initial entry (now :: past) (watcher.tick compiler now notifier).watcher

variable {watcher : Watcher State Compiled Program} {now : Workspace}
  {past moments : List Workspace}

/-- Directories are not the concern of the shader. -/
@[simp] theorem syncDirectories_shader (watcher : Watcher State Compiled Program)
    (workspace : Workspace) (notifier : Notifier) :
    (watcher.syncDirectories workspace notifier).watcher.shader = watcher.shader := by
  simp only [syncDirectories]
  split <;> rfl

/-- A tick that finds a stale stamp loads the entry. -/
theorem tick_shader (watcher : Watcher State Compiled Program)
    (entry_eq : watcher.shader.entry = some entry) (now : Workspace) (notifier : Notifier) :
    (watcher.tick compiler now notifier).watcher.shader =
      if watcher.shader.isOutdated now then (watcher.shader.load compiler now entry).shader
      else watcher.shader := by
  unfold tick
  split
  · simp only [syncDirectories_shader, Shader.reload, entry_eq]
  · rfl

/-- All moments of a run have one frame. -/
theorem Runs.frame (run : Runs compiler initial entry moments watcher) :
    ∀ moment ∈ moments, ∀ last, moments.head? = some last → moment.SameFrame last := by
  induction run with
  | loaded workspace directories =>
    intro moment member last isLast
    obtain rfl := List.mem_singleton.1 member
    obtain rfl := Option.some.inj isLast
    exact .refl moment
  | edited run frame inductionHypothesis =>
    intro moment member last isLast
    obtain rfl := Option.some.inj isLast
    rcases List.mem_cons.1 member with rfl | earlier
    · exact .refl moment
    · exact (inductionHypothesis moment earlier _ rfl).trans frame
  | ticked run notifier inductionHypothesis => exact inductionHypothesis

/-- At every time of a run the shader follows one of the moments. -/
theorem Runs.follows (run : Runs compiler initial entry moments watcher)
    (pure : compiler.IsPure) (isPrepared : initial.IsPrepared compiler) :
    ∃ moment ∈ moments, watcher.shader.Follows compiler initial entry moment := by
  induction run with
  | loaded workspace directories =>
    have setup : initial.SameSetup initial := ⟨rfl, rfl, rfl⟩
    exact ⟨workspace, List.mem_singleton_self _, setup.load_follows pure isPrepared workspace entry⟩
  | edited run frame inductionHypothesis =>
    obtain ⟨moment, member, follows⟩ := inductionHypothesis
    exact ⟨moment, List.mem_cons_of_mem _ member, follows⟩
  | @ticked now past watcher run notifier inductionHypothesis =>
    obtain ⟨moment, member, follows⟩ := inductionHypothesis
    rw [tick_shader watcher follows.entry_eq]
    split
    · exact ⟨now, List.mem_cons_self, follows.setup.load_follows pure isPrepared now entry⟩
    · exact ⟨moment, member, follows⟩

/-- Times tell what files hold: where a path leads to regular files with the same time at
two moments, they hold the same bytes. -/
def TimesTell (moments : List Workspace) : Prop :=
  ∀ first ∈ moments, ∀ second ∈ moments, ∀ path location other file file',
    first.regular? path = some (location, file) →
      second.regular? path = some (other, file') → file.modified = file'.modified →
        file.bytes = file'.bytes

/-- After every tick of a run the shader agrees with a fresh shader that loads the entry. -/
theorem tick_agrees_fresh (run : Runs compiler initial entry (now :: past) watcher)
    (pure : compiler.IsPure) (isPrepared : initial.IsPrepared compiler)
    (times : TimesTell (now :: past)) (state : State) (notifier : Notifier) :
    (watcher.tick compiler now notifier).watcher.shader.Agrees
      ((initial.fresh compiler state).load compiler now entry) := by
  have setup := Shader.fresh_sameSetup pure isPrepared state
  obtain ⟨moment, member, follows⟩ := run.follows pure isPrepared
  rw [tick_shader watcher follows.entry_eq]
  cases outdated : watcher.shader.isOutdated now with
  | true =>
    have reloaded := follows.setup.load_follows pure isPrepared now entry
    exact reloaded.agrees setup pure isPrepared
  | false =>
    have precedes : moment.Precedes now :=
      ⟨run.frame moment member now rfl, times moment member now List.mem_cons_self⟩
    exact follows.agrees_later setup pure isPrepared precedes outdated

/-- Times tell across a write that sets a new time. -/
theorem timesTell_write {location : Location} {file : File}
    (free : workspace.tree.fixture? location = none)
    (newer : ∀ old, workspace.tree.file? location = some old → old.modified ≠ file.modified) :
    TimesTell [workspace.write location file, workspace] := by
  have still : ∀ (moment : Workspace) (path : Path) (place other : Location) (old new : File),
      moment.regular? path = some (place, old) → moment.regular? path = some (other, new) →
        old.bytes = new.bytes := by
    intro moment path place other old new leads leadsAgain
    obtain ⟨-, rfl⟩ := Prod.mk.inj (Option.some.inj (leads.symm.trans leadsAgain))
    rfl
  have across : ∀ (path : Path) (place other : Location) (old new : File),
      workspace.regular? path = some (place, old) →
        (workspace.write location file).regular? path = some (other, new) →
          old.modified = new.modified → old.bytes = new.bytes := by
    intro path place other old new leads leadsNow same
    rcases Workspace.eq_of_regular?_write free leads leadsNow with ⟨rfl, rfl⟩ | rfl
    · exact absurd same (newer old (Workspace.regular?_eq_some_iff.1 leads).2)
    · rfl
  intro first isFirst second isSecond path place other old new leads leadsAgain same
  simp only [List.mem_cons, List.not_mem_nil, or_false] at isFirst isSecond
  rcases isFirst with rfl | rfl <;> rcases isSecond with rfl | rfl
  · exact still _ path place other old new leads leadsAgain
  · exact (across path other place new old leadsAgain leads same.symm).symm
  · exact across path place other old new leads leadsAgain same
  · exact still _ path place other old new leads leadsAgain

/-- A compiler that takes every source for its unit, and the fragment for the program. -/
def copying : Compiler Unit String String where
  name := "copying"
  format := .paren
  compile _ source _ := (.ok source, ())
  link _ _ fragment := (.ok fragment, ())

/-- A shader that was prepared with the copying compiler. -/
def prepared : Shader Unit String String :=
  ((Shader.new () .standard none).prepare copying).shader

/-- The entangled files once `w` was written to `d/e`. -/
def revised : Workspace :=
  Workspace.entangled.write Workspace.Entangled.void ⟨"w".toUTF8, 9⟩

/-- A file that is included by an included file is written, and the next tick finds it. -/
theorem tick_agrees_fresh_entangled : ∃ watcher,
    Runs copying prepared ⟨"top"⟩ [revised, .entangled] watcher ∧
      (watcher.tick copying revised).result = .reloaded true ∧
      (watcher.tick copying revised).watcher.shader.Agrees
        ((prepared.fresh copying ()).load copying revised ⟨"top"⟩) := by
  have free : Workspace.entangled.tree.fixture? Workspace.Entangled.void = none := rfl
  have newer : ∀ old, Workspace.entangled.tree.file? Workspace.Entangled.void =
      some old → old.modified ≠ 9 := by
    intro old present
    obtain rfl : (⟨"".toUTF8, 3⟩ : File) = old := Option.some.inj present
    decide
  have pure : copying.IsPure := ⟨fun _ _ _ _ => rfl, fun _ _ _ _ => rfl⟩
  have isPrepared : prepared.IsPrepared copying := ⟨(), fullScreenVertex, rfl, rfl⟩
  have loaded : Runs copying prepared ⟨"top"⟩ [.entangled] _ := .loaded .entangled []
  have run : Runs copying prepared ⟨"top"⟩ [revised, .entangled] _ :=
    loaded.edited (Workspace.sameFrame_write free ⟨"w".toUTF8, 9⟩)
  refine ⟨_, run, ?_, tick_agrees_fresh run pure isPrepared (timesTell_write free newer) ()
    .willing⟩
  decide +kernel

end Watcher

end LiveShader
