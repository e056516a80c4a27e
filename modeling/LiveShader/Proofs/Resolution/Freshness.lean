import LiveShader.Proofs.FileTree.Moments
import LiveShader.Proofs.Resolution.Course

/-!
# Fresh stamps keep a resolution

The stamps that a resolution leaves decide whether another one would end the same way:
while none of them is stale, a resolution that succeeded gives the same unit again, and
one that failed fails again.
-/

namespace LiveShader

/-- The stamp of the file that was missing, if that is why an expansion stopped. -/
def Halt.stamps (halt : Option Halt) : List Stamp :=
  halt.toList.flatMap fun halt => halt.missing.toList

namespace Workspace

/-! ## What the stamps say -/

/-- None of the stamps is stale. -/
def AllFresh (workspace : Workspace) (stamps : List Stamp) : Prop :=
  ∀ stamp ∈ stamps, stamp.isStale workspace = false

/-- There is a regular file at each of the locations. -/
def AllPresent (workspace : Workspace) (opened : List Location) : Prop :=
  ∀ place ∈ opened, ∃ file, workspace.tree.file? place = some file

variable {workspace before after : Workspace} {limits : ResolutionLimits} {nesting index : Nat}
  {location : Location} {opened more : List Location} {remaining : List (String × Nat)}
  {emissions : List Emission} {halt : Option Halt} {entry : Path}

@[simp] theorem allFresh_cons {stamp : Stamp} {stamps : List Stamp} :
    workspace.AllFresh (stamp :: stamps) ↔
      stamp.isStale workspace = false ∧ workspace.AllFresh stamps :=
  List.forall_mem_cons

@[simp] theorem allFresh_append {first second : List Stamp} :
    workspace.AllFresh (first ++ second) ↔
      workspace.AllFresh first ∧ workspace.AllFresh second :=
  List.forall_mem_append

/-- Files are present if the first one is, and the others. -/
@[simp] theorem allPresent_cons {place : Location} :
    workspace.AllPresent (place :: opened) ↔
      (∃ file, workspace.tree.file? place = some file) ∧ workspace.AllPresent opened :=
  List.forall_mem_cons

/-- Files are present if those on both sides are. -/
@[simp] theorem allPresent_append :
    workspace.AllPresent (opened ++ more) ↔
      workspace.AllPresent opened ∧ workspace.AllPresent more :=
  List.forall_mem_append

/-- No file is absent where none is opened. -/
theorem allPresent_nil : workspace.AllPresent [] :=
  fun place member => by cases member

/-- Files stay present with one more behind them that is. -/
theorem AllPresent.concat {place : Location} {file : File} (present : workspace.AllPresent opened)
    (there : workspace.tree.file? place = some file) :
    workspace.AllPresent (opened ++ [place]) :=
  allPresent_append.2 ⟨present, allPresent_cons.2 ⟨⟨file, there⟩, allPresent_nil⟩⟩

/-- What an expansion opens is what some path leads to. -/
theorem Unfolds.leads
    (unfolds : workspace.Unfolds limits nesting location index opened remaining emissions halt) :
    ∀ place ∈ Emission.locations emissions,
      ∃ path file, workspace.LeadsTo path place file := by
  induction unfolds with
  | done | malformed | missing | overlong | tooDeep | tooMany => exact List.forall_mem_nil _
  | code isCode later inductionHypothesis => exact inductionHypothesis
  | repeated directive leads known later inductionHypothesis => exact inductionHypothesis
  | expanded directive leads fresh room isText inside later insideHypothesis laterHypothesis =>
    simp only [List.cons_append, Emission.locations_opened, Emission.locations_append,
      List.forall_mem_cons, List.forall_mem_append]
    exact ⟨⟨_, _, leads⟩, insideHypothesis, laterHypothesis⟩
  | unreadable directive leads fresh room notText =>
    exact List.forall_mem_singleton.2 ⟨_, _, leads⟩
  | stopped directive leads fresh room isText inside insideHypothesis =>
    exact List.forall_mem_cons.2 ⟨⟨_, _, leads⟩, insideHypothesis⟩

/-- What an expansion opens is there. -/
theorem Unfolds.allPresent
    (unfolds : workspace.Unfolds limits nesting location index opened remaining emissions halt) :
    workspace.AllPresent (Emission.locations emissions) := by
  intro place isOpened
  obtain ⟨path, file, leads⟩ := unfolds.leads place isOpened
  exact ⟨file, leads.present⟩

/-! ## Expansions at two moments -/

/-- Of two endings the second is like the first: nothing has changed if the first is a
success, and both are failures otherwise. -/
def Persists (emissions : List Emission) (halt : Option Halt) (emissions' : List Emission)
    (halt' : Option Halt) : Prop :=
  match halt with
  | none => emissions' = emissions ∧ halt' = none
  | some _ => halt'.isSome

/-- What persists still does behind emissions that come before. -/
theorem Persists.append {emissions' : List Emission} {halt' : Option Halt}
    (persists : Persists emissions halt emissions' halt') (first : List Emission) :
    Persists (first ++ emissions) halt (first ++ emissions') halt' := by
  cases halt with
  | none => exact ⟨by rw [persists.1], persists.2⟩
  | some halt => exact persists

/-- While no stamp is stale, an expansion that finished finishes in the same way, and one
that was stopped is stopped. -/
theorem Unfolds.persists
    (unfolds : before.Unfolds limits nesting location index opened remaining emissions halt)
    (precedes : before.Precedes after)
    (fresh : after.AllFresh (Emission.stamps emissions ++ Halt.stamps halt))
    (present : after.AllPresent opened) :
    ∃ emissions' halt',
      after.Unfolds limits nesting location index opened remaining emissions' halt' ∧
        Persists emissions halt emissions' halt' := by
  induction unfolds with
  | done => exact ⟨_, _, .done, rfl, rfl⟩
  | code isCode later inductionHypothesis =>
    obtain ⟨_, _, unfolds, persists⟩ := inductionHypothesis fresh present
    exact ⟨_, _, .code isCode unfolds, persists.append [_]⟩
  | repeated directive leads known later inductionHypothesis =>
    obtain ⟨_, _, unfolds, persists⟩ := inductionHypothesis fresh present
    obtain ⟨file, there⟩ := present _ known
    have leadsNow := precedes.frame.leadsTo_of_file? leads there
    exact ⟨_, _, .repeated directive leadsNow known unfolds, persists.append [_]⟩
  | expanded directive leads unopened room isText inside later insideHypothesis laterHypothesis =>
    simp only [List.cons_append, Emission.stamps_opened, Emission.stamps_append, allFresh_cons,
      allFresh_append] at fresh insideHypothesis laterHypothesis
    obtain ⟨freshHere, ⟨freshInside, freshLater⟩, freshEnd⟩ := fresh
    have leadsNow := precedes.leadsTo leads freshHere
    obtain ⟨_, _, insideNow, rfl, rfl⟩ := insideHypothesis
      ⟨freshInside, by simp [Halt.stamps, AllFresh]⟩
      (present.concat leadsNow.present)
    obtain ⟨_, _, laterNow, persists⟩ := laterHypothesis ⟨freshLater, freshEnd⟩
      (allPresent_append.2
        ⟨present, allPresent_cons.2 ⟨⟨_, leadsNow.present⟩, insideNow.allPresent⟩⟩)
    exact ⟨_, _, .expanded directive leadsNow unopened room isText insideNow laterNow,
      persists.append (_ :: _)⟩
  | malformed isMalformed => exact ⟨_, _, .malformed isMalformed, rfl⟩
  | missing directive leads =>
    have leadsNow := precedes.regular?_eq_none leads (fresh _ (by simp [Halt.stamps]))
    exact ⟨_, _, .missing directive leadsNow, rfl⟩
  | overlong directive leads overlong =>
    rcases precedes.frame.overlong_cases leads overlong with
      ⟨other, leadsNow, overlongNow⟩ | leadsNow
    · exact ⟨_, _, .overlong directive leadsNow overlongNow, rfl⟩
    · exact ⟨_, _, .missing directive leadsNow, rfl⟩
  | tooDeep directive leads unopened =>
    -- The file was not opened, so nothing is known of it but its place.
    rcases precedes.frame.leadsTo_cases leads with ⟨other, leadsNow⟩ | leadsNow
    · exact ⟨_, _, .tooDeep directive leadsNow unopened, rfl⟩
    · exact ⟨_, _, .missing directive leadsNow, rfl⟩
  | tooMany directive leads unopened full =>
    rcases precedes.frame.leadsTo_cases leads with ⟨other, leadsNow⟩ | leadsNow
    · exact ⟨_, _, .tooMany directive leadsNow unopened full, rfl⟩
    · exact ⟨_, _, .missing directive leadsNow, rfl⟩
  | unreadable directive leads unopened room notText =>
    have leadsNow := precedes.leadsTo leads (fresh _ List.mem_cons_self)
    exact ⟨_, _, .unreadable directive leadsNow unopened room notText, rfl⟩
  | @stopped _ _ _ _ _ _ _ _ _ _ _ _ _ directive leads unopened room isText inside
      insideHypothesis =>
    simp only [Emission.stamps_opened, List.cons_append, allFresh_cons] at fresh
    obtain ⟨freshHere, freshInside⟩ := fresh
    have leadsNow := precedes.leadsTo leads freshHere
    obtain ⟨_, halt', insideNow, persists⟩ := insideHypothesis freshInside
      (present.concat leadsNow.present)
    obtain ⟨halted, rfl⟩ := Option.isSome_iff_exists.1 persists
    exact ⟨_, _, .stopped directive leadsNow unopened room isText insideNow, rfl⟩

/-! ## Resolutions at two moments -/

/-- The stamps that a resolution leaves, however it ends. -/
def resolveStamps (workspace : Workspace) (entry : Path) (limits : ResolutionLimits) :
    List Stamp :=
  match workspace.resolve entry limits with
  | .ok resolution => resolution.provenance.stamps
  | .error failure => failure.stamps

/-- A resolution leaves the stamps of what was emitted, and those of what was missing. -/
theorem Expands.resolveStamps_eq {file : File}
    (expands : workspace.Expands limits location file emissions halt)
    (leads : workspace.LeadsTo entry location file) :
    workspace.resolveStamps entry limits = Emission.stamps emissions ++ Halt.stamps halt := by
  have stamps_eq : (entryDraft location emissions).provenance.stamps = Emission.stamps emissions :=
    Draft.stamps_emitAll _ emissions
  rw [resolveStamps, expands.resolve_eq leads]
  cases halt with
  | none => simp [Draft.conclude, Halt.stamps, stamps_eq]
  | some halt => simp [Draft.conclude, Halt.stamps, stamps_eq]

/-- While no stamp is stale, the entry file is expanded as it was, or there is none, or it
was not expanded. -/
theorem Expands.persists {file : File}
    (expands : before.Expands limits location file emissions halt)
    (leads : before.LeadsTo entry location file) (precedes : before.Precedes after)
    (fresh : after.AllFresh (Emission.stamps emissions ++ Halt.stamps halt)) :
    (halt.isSome ∧ after.regular? entry = none) ∨
      ∃ file' emissions' halt', after.LeadsTo entry location file' ∧
        after.Expands limits location file' emissions' halt' ∧
          Persists emissions halt emissions' halt' := by
  cases expands with
  | tooMany full =>
    rcases precedes.frame.leadsTo_cases leads with ⟨other, leadsNow⟩ | leadsNow
    · exact .inr ⟨other, _, _, leadsNow, .tooMany full, rfl⟩
    · exact .inl ⟨rfl, leadsNow⟩
  | unreadable room notText =>
    have leadsNow := precedes.leadsTo leads (fresh _ List.mem_cons_self)
    exact .inr ⟨file, _, _, leadsNow, .unreadable room notText, rfl⟩
  | lines room isText unfolds =>
    simp only [Emission.stamps_opened, List.cons_append, allFresh_cons] at fresh
    have leadsNow := precedes.leadsTo leads fresh.1
    obtain ⟨_, _, unfoldsNow, persists⟩ := unfolds.persists precedes fresh.2
      (allPresent_nil.concat leadsNow.present)
    exact .inr ⟨file, _, _, leadsNow, .lines room isText unfoldsNow, persists.append [_]⟩

/-- While no stamp is stale, a resolution that succeeded gives the same again, and one
that failed fails again. -/
theorem Precedes.resolve_persists (precedes : before.Precedes after)
    (fresh : after.AllFresh (before.resolveStamps entry limits)) :
    (∃ resolution, before.resolve entry limits = .ok resolution ∧
        after.resolve entry limits = .ok resolution) ∨
      ∃ failure failure', before.resolve entry limits = .error failure ∧
        after.resolve entry limits = .error failure' := by
  rcases before.leads_cases entry with
    leads | ⟨location, file, leads, overlong⟩ | ⟨location, file, leads⟩
  · rw [resolveStamps, resolve_of_missing leads] at fresh
    have leadsNow := precedes.regular?_eq_none leads (fresh _ List.mem_cons_self)
    exact .inr ⟨_, _, resolve_of_missing leads, resolve_of_missing leadsNow⟩
  · -- A path that is too long stays so, whatever the file holds.
    rcases precedes.frame.overlong_cases leads overlong with
      ⟨other, leadsNow, overlongNow⟩ | leadsNow
    · exact .inr ⟨_, _, resolve_of_overlong leads overlong,
        resolve_of_overlong leadsNow overlongNow⟩
    · exact .inr ⟨_, _, resolve_of_overlong leads overlong, resolve_of_missing leadsNow⟩
  · obtain ⟨emissions, halt, expands⟩ := exists_expands before limits location file
    rw [expands.resolveStamps_eq leads] at fresh
    have resolve_eq := expands.resolve_eq leads
    rcases expands.persists leads precedes fresh with
      ⟨stopped, leadsNow⟩ | ⟨file', emissions', halt', leadsNow, expandsNow, persists⟩
    · obtain ⟨halted, rfl⟩ := Option.isSome_iff_exists.1 stopped
      exact .inr ⟨_, _, resolve_eq, resolve_of_missing leadsNow⟩
    · have resolveNow_eq := expandsNow.resolve_eq leadsNow
      cases halt with
      | none =>
        obtain ⟨rfl, rfl⟩ := persists
        exact .inl ⟨_, resolve_eq, resolveNow_eq⟩
      | some halted =>
        obtain ⟨haltedNow, rfl⟩ := Option.isSome_iff_exists.1 persists
        exact .inr ⟨_, _, resolve_eq, resolveNow_eq⟩

end Workspace

end LiveShader
