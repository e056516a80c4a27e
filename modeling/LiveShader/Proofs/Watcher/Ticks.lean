import LiveShader.Proofs.Resolution.Entrances
import LiveShader.Proofs.Shader.Calls
import LiveShader.Proofs.Watcher.Directories
import LiveShader.Proofs.Watcher.HotReload

/-!
# Ticks settle

However a load ends, none of the stamps that it leaves is stale at that moment
(`Workspace.allFresh_resolveStamps`): a file is stamped at its canonical path, which is short enough
to be asked for. So a watcher comes to rest: a tick reloads exactly if a file has another time, and
a tick that follows a load or a tick at once does nothing.
-/

namespace LiveShader

namespace Workspace

variable {workspace : Workspace} {limits : ResolutionLimits} {entry path : Path}
  {location : Location} {file : File} {emissions : List Emission} {halt : Option Halt}

/-! ## Stamps of a resolution are fresh -/

/-- A stamp is fresh when it is taken. -/
theorem isStale_stamp (workspace : Workspace) (path : Path) :
    (workspace.stamp path).isStale workspace = false := by
  simp [Stamp.isStale, stamp]

/-- The stamp of a file is fresh at its canonical path. -/
theorem LeadsTo.isStale_stampAt (leads : workspace.LeadsTo path location file) :
    (workspace.stampAt location).isStale workspace = false := by
  simp [stampAt_of_file? leads.present, Stamp.isStale, leads.modified?_path]

/-- The stamps of the files that the expansion of an entry file opens are fresh. -/
theorem Expands.allFresh (expands : workspace.Expands limits location file emissions halt)
    (leads : workspace.LeadsTo entry location file) :
    workspace.AllFresh (Emission.stamps emissions) := by
  have entryFresh : Stamp.isStale workspace ⟨location.path, some file.modified⟩ = false :=
    stampAt_of_file? leads.present ▸ leads.isStale_stampAt
  cases expands with
  | tooMany full => exact List.forall_mem_nil _
  | unreadable room notText => exact List.forall_mem_singleton.2 entryFresh
  | lines room isText unfolds =>
    rw [Emission.stamps_opened, allFresh_cons, unfolds.stamps_eq]
    refine ⟨entryFresh, List.forall_mem_map.2 fun place isOpened => ?_⟩
    obtain ⟨path, other, leadsThere⟩ := unfolds.leads place isOpened
    exact leadsThere.isStale_stampAt

/-- The stamp of a path that was missing is fresh. -/
theorem Expands.allFresh_missing
    (expands : workspace.Expands limits location file emissions halt) :
    workspace.AllFresh (Halt.stamps halt) := by
  intro stamp isStamp
  obtain ⟨stop, stopped, isMissing⟩ := List.mem_flatMap.1 isStamp
  rw [expands.missing_eq stop (Option.mem_toList.1 stopped), Option.mem_toList] at isMissing
  obtain ⟨path, -, rfl⟩ := Option.map_eq_some_iff.1 isMissing
  exact isStale_stamp workspace path

/-- Right after a resolution, however it ends, none of its stamps is stale. -/
theorem allFresh_resolveStamps (workspace : Workspace) (entry : Path) (limits : ResolutionLimits) :
    workspace.AllFresh (workspace.resolveStamps entry limits) := by
  rcases workspace.leads_cases entry with
    leads | ⟨_, _, leads, overlong⟩ | ⟨location, file, leads⟩
  · rw [resolveStamps, resolve_of_missing leads]
    exact List.forall_mem_singleton.2 (isStale_stamp workspace entry)
  · rw [resolveStamps, resolve_of_overlong leads overlong]
    exact List.forall_mem_singleton.2 (isStale_stamp workspace entry)
  · obtain ⟨emissions, halt, expands⟩ := exists_expands workspace limits location file
    rw [expands.resolveStamps_eq leads, allFresh_append]
    exact ⟨expands.allFresh leads, expands.allFresh_missing⟩

end Workspace

variable {State Compiled Program : Type} {compiler : Compiler State Compiled Program}
  {shader : Shader State Compiled Program} {entry : Path} {workspace : Workspace}

namespace Shader

/-- A load of a prepared shader leaves the stamps of its resolution, however it ends. -/
theorem Ends.stamps_eq {outcome : LoadOutcome State Compiled Program} {vertex : Compiled}
    (ends : shader.Ends compiler workspace entry outcome)
    (isPrepared : shader.vertex = some vertex) :
    outcome.shader.stamps = workspace.resolveStamps entry shader.limits := by
  unfold Workspace.resolveStamps
  cases ends with
  | unprepared unprepared => simp [isPrepared] at unprepared
  | unresolved _ failed => rw [failed]
  | refused _ resolved | unlinked _ resolved | linked _ resolved => rw [resolved]

/-- A prepared shader is not outdated right after a load. -/
theorem isOutdated_load {vertex : Compiled} (isPrepared : shader.vertex = some vertex)
    (compiler : Compiler State Compiled Program) (workspace : Workspace) (entry : Path) :
    (shader.load compiler workspace entry).shader.isOutdated workspace = false := by
  have fresh := workspace.allFresh_resolveStamps entry shader.limits
  rw [← (shader.load_ends compiler workspace entry).stamps_eq isPrepared] at fresh
  simpa [isOutdated, Workspace.AllFresh] using fresh

/-- A shader is outdated exactly if some file has another time than its stamp tells. -/
theorem isOutdated_iff {shader : Shader State Compiled Program} :
    shader.isOutdated workspace = true ↔
      ∃ stamp ∈ shader.stamps, workspace.modified? stamp.path ≠ stamp.modified := by
  simp [isOutdated, Stamp.isStale]

end Shader

namespace Watcher

/-- Runs of a watcher: a prepared shader loads an entry file, however that ends, a watcher begins
to watch it, and then the tree changes in any way and ticks are taken, in any order, whichever
directories the system refuses to watch. The flag tells that nothing has changed since the load
or the last tick. -/
inductive Proceeds (compiler : Compiler State Compiled Program) (entry : Path) :
    Bool → Workspace → Watcher State Compiled Program → Prop where
  | begun {shader : Shader State Compiled Program} {vertex before now quiet notifier watcher notes}
      (isPrepared : shader.vertex = some vertex) (unchanged : quiet = true → now = before)
      (started :
        start (shader.load compiler before entry).shader now notifier = (.ok watcher, notes)) :
      Proceeds compiler entry quiet now watcher
  | edited {quiet now watcher} (run : Proceeds compiler entry quiet now watcher)
      (next : Workspace) : Proceeds compiler entry false next watcher
  | ticked {quiet now watcher} (run : Proceeds compiler entry quiet now watcher)
      (notifier : Notifier) :
      Proceeds compiler entry true now (watcher.tick compiler now notifier).watcher

/-- How a watcher begins: it watches the parents of the files of its shader, or the system refused
one of them. -/
structure BeginsTruly (shader : Shader State Compiled Program) (now : Workspace)
    (notifier : Notifier) : Prop where
  watches : ∀ watcher notes, start shader now notifier = (.ok watcher, notes) →
    watcher.shader = shader ∧ watcher.WatchesParents now
  refused : ∀ failure notes, start shader now notifier = (.error failure, notes) →
    Refused shader now notifier failure

/-- What a tick does: it reloads exactly if some watched stamp differs from the time of its path,
and then loads the entry file and watches the parents of the files that were loaded, unless the
system refuses one of them. Otherwise it does nothing, and so it is if nothing has changed since
the load or the tick before. -/
structure TicksTruly (compiler : Compiler State Compiled Program) (entry : Path)
    (notifier : Notifier) (quiet : Bool) (now : Workspace)
    (watcher : Watcher State Compiled Program) : Prop where
  reloads_iff : (watcher.tick compiler now notifier).result ≠ .idle ↔
    ∃ stamp ∈ watcher.shader.stamps, now.modified? stamp.path ≠ stamp.modified
  reloads : (watcher.tick compiler now notifier).result ≠ .idle →
    (watcher.tick compiler now notifier).result =
        .reloaded (watcher.shader.load compiler now entry).result.isOk ∧
      (watcher.tick compiler now notifier).watcher.shader =
        (watcher.shader.load compiler now entry).shader
  watches : (watcher.tick compiler now notifier).result ≠ .idle →
    (watcher.tick compiler now notifier).failure = none →
      (watcher.tick compiler now notifier).watcher.WatchesParents now
  refused : ∀ failure, (watcher.tick compiler now notifier).failure = some failure →
    (watcher.tick compiler now notifier).watcher.directories = watcher.directories ∧
      Refused (watcher.tick compiler now notifier).watcher.shader now notifier failure
  idle : (watcher.tick compiler now notifier).result = .idle →
    watcher.tick compiler now notifier = ⟨watcher, .idle, none, []⟩
  quiet_idle : quiet = true → watcher.tick compiler now notifier = ⟨watcher, .idle, none, []⟩

variable {watcher : Watcher State Compiled Program} {quiet : Bool} {now : Workspace}
  {notifier : Notifier}

/-- A watcher begins with the shader that it was given. -/
theorem beginsTruly (shader : Shader State Compiled Program) (now : Workspace)
    (notifier : Notifier) : BeginsTruly shader now notifier where
  watches watcher notes started := by
    have started := congrArg Prod.fst started
    simp only [start] at started
    cases outcome : (syncDirectories ⟨shader, []⟩ now notifier).failure with
    | some failure => simp [outcome] at started
    | none =>
      rw [outcome, Option.elim_none, Except.ok.injEq] at started
      rw [← started]
      exact ⟨syncDirectories_shader _ now notifier, watchesParents_of_synced outcome⟩
  refused failure notes started := by
    have started := congrArg Prod.fst started
    simp only [start] at started
    cases outcome : (syncDirectories ⟨shader, []⟩ now notifier).failure with
    | some other =>
      rw [outcome, Option.elim_some, Except.error.injEq] at started
      exact started ▸ (watcher_of_refused outcome).2
    | none => simp [outcome] at started

/-- A tick of a watcher that is up to date does nothing. -/
theorem tick_of_upToDate (upToDate : watcher.shader.isOutdated now = false) :
    watcher.tick compiler now notifier = ⟨watcher, .idle, none, []⟩ := by
  rw [tick, if_neg (by simp [upToDate])]

/-- A tick of an outdated watcher loads the entry, and then brings the directories up to date. -/
theorem tick_of_outdated (compiler : Compiler State Compiled Program) (notifier : Notifier)
    (outdated : watcher.shader.isOutdated now = true)
    (entry_eq : watcher.shader.entry = some entry) :
    ∃ synced signals, synced =
        syncDirectories ⟨(watcher.shader.load compiler now entry).shader, watcher.directories⟩ now
          notifier ∧
      watcher.tick compiler now notifier =
        ⟨synced.watcher, .reloaded (watcher.shader.load compiler now entry).result.isOk,
          synced.failure, signals⟩ := by
  rw [tick, if_pos outdated, Shader.reload, entry_eq]
  exact ⟨_, _, rfl, rfl⟩

/-- What holds of a watcher at all times of a run. -/
structure Awaits (watcher : Watcher State Compiled Program) (entry : Path) (quiet : Bool)
    (now : Workspace) : Prop where
  isPrepared : ∃ vertex, watcher.shader.vertex = some vertex
  entry_eq : watcher.shader.entry = some entry
  rests : quiet = true → watcher.shader.isOutdated now = false

/-- A load makes a watcher rest. -/
theorem awaits_load {vertex : Compiled} (isPrepared : shader.vertex = some vertex)
    (loaded : watcher.shader = (shader.load compiler now entry).shader) :
    watcher.Awaits entry true now := by
  obtain ⟨setup, entry_eq⟩ := Shader.load_setup isPrepared compiler now entry
  refine ⟨⟨vertex, ?_⟩, ?_, fun _ => ?_⟩
  · rw [loaded, setup.vertex_eq, isPrepared]
  · rw [loaded, entry_eq]
  · rw [loaded]
    exact Shader.isOutdated_load isPrepared compiler now entry

/-- A change of the tree leaves a watcher waiting. -/
theorem Awaits.edited (awaits : watcher.Awaits entry quiet now) (next : Workspace) :
    watcher.Awaits entry false next :=
  ⟨awaits.isPrepared, awaits.entry_eq, fun never => by cases never⟩

/-- A tick makes a watcher rest, also one that a directory was refused to. -/
theorem Awaits.ticked (awaits : watcher.Awaits entry quiet now) (notifier : Notifier) :
    (watcher.tick compiler now notifier).watcher.Awaits entry true now := by
  obtain ⟨vertex, isPrepared⟩ := awaits.isPrepared
  have tick_eq : (watcher.tick compiler now notifier).watcher.shader = _ :=
    tick_shader watcher awaits.entry_eq now notifier
  cases outdated : watcher.shader.isOutdated now with
  | true => exact awaits_load isPrepared (tick_eq.trans (if_pos outdated))
  | false =>
    rw [tick_of_upToDate outdated]
    exact ⟨awaits.isPrepared, awaits.entry_eq, fun _ => outdated⟩

/-- At all times of a run a watcher knows its entry, and it rests if nothing has changed. -/
theorem Proceeds.awaits (run : Proceeds compiler entry quiet now watcher) :
    watcher.Awaits entry quiet now := by
  induction run with
  | @begun shader vertex before now quiet notifier watcher notes isPrepared unchanged started =>
    have loaded := ((beginsTruly _ now notifier).watches watcher notes started).1
    have begun : watcher.Awaits entry true before := awaits_load isPrepared loaded
    cases quiet with
    | false => exact begun.edited now
    | true => exact unchanged rfl ▸ begun
  | edited run next inductionHypothesis => exact inductionHypothesis.edited next
  | ticked run notifier inductionHypothesis => exact inductionHypothesis.ticked notifier

/-- A tick of a watcher that knows its entry file. -/
theorem Awaits.ticksTruly (awaits : watcher.Awaits entry quiet now) (notifier : Notifier) :
    TicksTruly compiler entry notifier quiet now watcher := by
  cases outdated : watcher.shader.isOutdated now with
  | true =>
    obtain ⟨synced, signals, synced_eq, tick_eq⟩ :=
      tick_of_outdated compiler notifier outdated awaits.entry_eq
    rw [synced_eq] at tick_eq
    refine ⟨?_, fun _ => ?_, fun _ synced => ?_, fun failure refused => ?_, fun idle => ?_,
      fun isQuiet => ?_⟩
    · rw [← Shader.isOutdated_iff, tick_eq]
      simp [outdated]
    · rw [tick_eq]
      exact ⟨rfl, syncDirectories_shader _ now notifier⟩
    · rw [tick_eq] at synced ⊢
      exact watchesParents_of_synced synced
    · rw [tick_eq] at refused ⊢
      obtain ⟨watcher_eq, isRefused⟩ := watcher_of_refused refused
      rw [watcher_eq]
      exact ⟨rfl, isRefused⟩
    · rw [tick_eq] at idle
      cases idle
    · rw [awaits.rests isQuiet] at outdated
      cases outdated
  | false =>
    have tick_eq : watcher.tick compiler now notifier = _ := tick_of_upToDate outdated
    refine ⟨?_, fun reloads => ?_, fun reloads => ?_, fun failure refused => ?_, fun _ => tick_eq,
      fun _ => tick_eq⟩
    · rw [← Shader.isOutdated_iff, tick_eq]
      simp [outdated]
    · rw [tick_eq] at reloads
      exact absurd rfl reloads
    · rw [tick_eq] at reloads
      exact absurd rfl reloads
    · rw [tick_eq] at refused
      cases refused

/-- A watcher watches the parents of the watched files from its construction on, and at all times
of a run it ticks truly. -/
theorem ticksTruly_of_proceeds (compiler : Compiler State Compiled Program) (entry : Path)
    (notifier : Notifier) :
    (∀ (shader : Shader State Compiled Program) (workspace : Workspace),
      BeginsTruly shader workspace notifier) ∧
    ∀ quiet now watcher, Proceeds compiler entry quiet now watcher →
      TicksTruly compiler entry notifier quiet now watcher :=
  ⟨fun shader workspace => beginsTruly shader workspace notifier,
    fun _ _ _ run => run.awaits.ticksTruly notifier⟩

/-- A file that is included by an included file is written: the next tick loads, and the ticks
before and after it are idle. -/
theorem ticksTruly_entangled : ∃ watcher,
    Proceeds copying ⟨"top"⟩ true .entangled watcher ∧
      watcher.tick copying .entangled = ⟨watcher, .idle, none, []⟩ ∧
    Proceeds copying ⟨"top"⟩ false revised watcher ∧
      (watcher.tick copying revised).result = .reloaded true ∧
      (watcher.tick copying revised).watcher.WatchesParents revised ∧
      (watcher.tick copying revised).watcher.tick copying revised =
        ⟨(watcher.tick copying revised).watcher, .idle, none, []⟩ := by
  have begun : Proceeds copying ⟨"top"⟩ true .entangled
      (new (prepared.load copying .entangled ⟨"top"⟩).shader .entangled).1 :=
    .begun rfl (fun _ => rfl) (start_willing _ _)
  have run := begun.edited revised
  have truly := (ticksTruly_of_proceeds copying ⟨"top"⟩ .willing).2
  have reloaded : ((new (prepared.load copying .entangled ⟨"top"⟩).shader .entangled).1.tick copying
      revised).result = .reloaded true := by decide +kernel
  have watched : ((new (prepared.load copying .entangled ⟨"top"⟩).shader .entangled).1.tick copying
      revised).failure = none := by decide +kernel
  have reloads : ((new (prepared.load copying .entangled ⟨"top"⟩).shader .entangled).1.tick copying
      revised).result ≠ .idle := by rw [reloaded]; exact nofun
  exact ⟨_, begun, (truly _ _ _ begun).quiet_idle rfl, run, reloaded,
    (truly _ _ _ run).watches reloads watched, (truly _ _ _ (run.ticked .willing)).quiet_idle rfl⟩

end Watcher

end LiveShader
