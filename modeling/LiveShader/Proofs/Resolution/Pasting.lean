import LiveShader.Proofs.Resolution.Attribution
import LiveShader.Proofs.Resolution.Limits

/-!
# Inclusion is pasting

To paste a file is to put the pasted target in place of each of its directives. Pasting knows
neither limits nor what was opened before, and a file that leads back to itself has no pasting.
An expansion that repeats no file emits what pasting gives (`Unfolds.pastes`), and so it would
if fewer files had been opened before (`Descends.afresh`): the block that replaces a directive
is what the target resolves to by itself.
-/

namespace LiveShader

/-- No line is the placeholder of a repeated include. -/
def Emission.Unrepeated (emissions : List Emission) : Prop :=
  ∀ line ∈ Emission.lines emissions, line.1.isRepeated = false

namespace Emission

variable {first second emissions : List Emission}

/-- Emissions are free of repeated directives exactly if those on both sides are. -/
@[simp] theorem unrepeated_append :
    Unrepeated (first ++ second) ↔ Unrepeated first ∧ Unrepeated second := by
  rw [Unrepeated, lines_append]
  exact List.forall_mem_append

@[simp] theorem unrepeated_opened {location : Location} {file : File} :
    Unrepeated (.opened location file :: emissions) ↔ Unrepeated emissions := Iff.rfl

@[simp] theorem unrepeated_code {index localLine : Nat} {text : String} :
    Unrepeated (.code index localLine text :: emissions) ↔ Unrepeated emissions := by
  rw [Unrepeated, lines_code, List.forall_mem_cons]
  exact and_iff_right rfl

/-- Emissions with a repeated directive are not free of them. -/
theorem not_unrepeated {index localLine : Nat} {includer target : Location} :
    ¬ Unrepeated (.repeated index localLine includer target :: emissions) := by
  rw [Unrepeated, lines_repeated, List.forall_mem_cons]
  exact fun unrepeated => Bool.noConfusion unrepeated.1

end Emission

namespace Workspace

variable (workspace : Workspace)

/-- What pasting makes of lines of a file: a line of code stays, and a directive becomes what
pasting makes of the file that it leads to. -/
inductive Pastes : Location → List String → List String → Prop where
  | done {location} : Pastes location [] []
  | code {location text rest pasted} (isCode : SourceLine.classify text = .code)
      (later : Pastes location rest pasted) : Pastes location (text :: rest) (text :: pasted)
  | directive {location text rest target place file source block pasted}
      (directive : SourceLine.classify text = .inclusion target)
      (leads : workspace.regular? (location.beside target) = some (place, file))
      (isText : file.text? = some source)
      (inside : Pastes place (Text.lines source) block)
      (later : Pastes location rest pasted) : Pastes location (text :: rest) (block ++ pasted)

/-- What pasting makes of the file that a path leads to. -/
def PastesFile (path : Path) (pasted : List String) : Prop :=
  ∃ location file source, workspace.regular? path = some (location, file) ∧
    file.text? = some source ∧ workspace.Pastes location (Text.lines source) pasted

/-- A unit is what pasting makes of its entry file, and each directive of the entry file was
replaced by the unit of the file that it leads to. -/
structure IsPasted (entry : Path) (resolution : Resolution) : Prop where
  pastes_iff : ∀ pasted, workspace.PastesFile entry pasted ↔ pasted = resolution.unit.lines
  block : ∀ unlimited, workspace.Ample unlimited → ∀ location file,
    workspace.regular? entry = some (location, file) → ∀ earlier text later target,
      workspace.sourceLines location.path = earlier ++ text :: later →
      SourceLine.classify text = .inclusion target →
      ∃ inner before after,
        workspace.resolve (location.beside target) unlimited = .ok inner ∧
        workspace.Pastes location earlier before ∧ workspace.Pastes location later after ∧
        resolution.unit.lines = before ++ inner.unit.lines ++ after

variable {workspace} {limits : ResolutionLimits} {depth nesting index : Nat}
  {location : Location} {opened : List Location} {remaining : List (String × Nat)}
  {emissions : List Emission} {openings : List Opening} {halt : Option Halt}

/-! ## Pasting -/

namespace Pastes

variable {lines first second pasted : List String}

/-- Lines have one pasting only. -/
theorem unique {other : List String} (pastes : workspace.Pastes location lines pasted)
    (others : workspace.Pastes location lines other) : pasted = other := by
  induction pastes generalizing other with
  | done =>
    cases others
    rfl
  | code isCode later inductionHypothesis =>
    cases others with
    | code _ otherLater => rw [inductionHypothesis otherLater]
    | directive directive => cases isCode.symm.trans directive
  | directive directive leads isText inside later insideHypothesis laterHypothesis =>
    cases others with
    | code isCode => cases isCode.symm.trans directive
    | directive otherDirective otherLeads otherText otherInside otherLater =>
      obtain rfl := SourceLine.inclusion.inj (directive.symm.trans otherDirective)
      obtain ⟨rfl, rfl⟩ := Prod.mk.inj (Option.some.inj (leads.symm.trans otherLeads))
      obtain rfl := Option.some.inj (isText.symm.trans otherText)
      rw [insideHypothesis otherInside, laterHypothesis otherLater]

/-- Lines are pasted one after the other. -/
theorem split (pastes : workspace.Pastes location (first ++ second) pasted) :
    ∃ before after, pasted = before ++ after ∧ workspace.Pastes location first before ∧
      workspace.Pastes location second after := by
  induction first generalizing pasted with
  | nil => exact ⟨[], pasted, rfl, .done, pastes⟩
  | cons text first inductionHypothesis =>
    cases pastes with
    | code isCode later =>
      obtain ⟨before, after, rfl, pastesFirst, pastesSecond⟩ := inductionHypothesis later
      exact ⟨text :: before, after, rfl, .code isCode pastesFirst, pastesSecond⟩
    | directive directive leads isText inside later =>
      obtain ⟨before, after, rfl, pastesFirst, pastesSecond⟩ := inductionHypothesis later
      exact ⟨_, after, (List.append_assoc _ _ _).symm,
        .directive directive leads isText inside pastesFirst, pastesSecond⟩

end Pastes

/-- A file has one pasting only. -/
theorem PastesFile.unique {path : Path} {pasted other : List String}
    (pastes : workspace.PastesFile path pasted) (others : workspace.PastesFile path other) :
    pasted = other := by
  obtain ⟨location, file, source, leads, isText, pastesLines⟩ := pastes
  obtain ⟨_, _, _, otherLeads, otherText, otherLines⟩ := others
  obtain ⟨rfl, rfl⟩ := Prod.mk.inj (Option.some.inj (leads.symm.trans otherLeads))
  obtain rfl := Option.some.inj (isText.symm.trans otherText)
  exact pastesLines.unique otherLines

/-- What replaces a directive among pasted lines is its pasted target. -/
theorem Pastes.block {earlier later pasted : List String} {text target : String}
    (pastes : workspace.Pastes location (earlier ++ text :: later) pasted)
    (directive : SourceLine.classify text = .inclusion target) :
    ∃ before block after, pasted = before ++ block ++ after ∧
      workspace.Pastes location earlier before ∧
      workspace.PastesFile (location.beside target) block ∧
      workspace.Pastes location later after := by
  obtain ⟨before, rest, rfl, pastesEarlier, pastesRest⟩ := pastes.split
  cases pastesRest with
  | code isCode => cases isCode.symm.trans directive
  | directive otherDirective leads isText inside pastesLater =>
    obtain rfl := SourceLine.inclusion.inj (directive.symm.trans otherDirective)
    exact ⟨before, _, _, (List.append_assoc _ _ _).symm, pastesEarlier,
      ⟨_, _, _, leads, isText, inside⟩, pastesLater⟩

/-! ## Expansions that repeat no file -/

/-- The numbered lines of a source are its lines. -/
theorem map_fst_numberedLines (source : String) :
    (numberedLines source).map Prod.fst = Text.lines source :=
  List.zipIdx_map_fst 1 _

/-- An expansion that repeats no file emits what pasting gives. -/
theorem Descends.pastes
    (descends : workspace.Descends depth location index opened remaining emissions openings halt)
    (finished : halt = none) (unrepeated : Emission.Unrepeated emissions) :
    workspace.Pastes location (remaining.map Prod.fst)
      ((Emission.lines emissions).map Prod.snd) := by
  induction descends with
  | done => exact .done
  | code isCode later inductionHypothesis =>
    exact .code isCode (inductionHypothesis finished (Emission.unrepeated_code.1 unrepeated))
  | repeated => exact absurd unrepeated Emission.not_unrepeated
  | expanded directive leads fresh isText inside later insideHypothesis laterHypothesis =>
    obtain ⟨above, below⟩ := Emission.unrepeated_append.1 unrepeated
    have pastesInside := insideHypothesis rfl (Emission.unrepeated_opened.1 above)
    rw [map_fst_numberedLines] at pastesInside
    rw [List.cons_append, Emission.lines_opened, Emission.lines_append, List.map_append]
    exact .directive directive leads.regular isText pastesInside (laterHypothesis finished below)
  | malformed | missing | overlong | unreadable | stopped => cases finished

/-- An expansion that repeats no file goes on in the same way where fewer files were opened
before. Only the numbers of the contributors differ. -/
theorem Descends.afresh {fewer : List Location}
    (descends : workspace.Descends depth location index opened remaining emissions openings halt)
    (finished : halt = none) (unrepeated : Emission.Unrepeated emissions)
    (subset : fewer ⊆ opened) (otherDepth otherIndex : Nat) :
    ∃ emissions' openings', workspace.Descends otherDepth location otherIndex fewer remaining
        emissions' openings' none ∧
      Emission.locations emissions' = Emission.locations emissions ∧
      Emission.Unrepeated emissions' := by
  induction descends generalizing fewer otherDepth otherIndex with
  | done => exact ⟨[], [], .done, rfl, unrepeated⟩
  | code isCode later inductionHypothesis =>
    obtain ⟨_, _, laterAfresh, locations_eq, unrepeatedLater⟩ :=
      inductionHypothesis finished (Emission.unrepeated_code.1 unrepeated) subset otherDepth
        otherIndex
    exact ⟨_, _, .code isCode laterAfresh, locations_eq,
      Emission.unrepeated_code.2 unrepeatedLater⟩
  | repeated => exact absurd unrepeated Emission.not_unrepeated
  | expanded directive leads fresh isText inside later insideHypothesis laterHypothesis =>
    obtain ⟨above, below⟩ := Emission.unrepeated_append.1 unrepeated
    obtain ⟨_, _, insideAfresh, inside_eq, unrepeatedInside⟩ :=
      insideHypothesis rfl (Emission.unrepeated_opened.1 above) (append_subset_append subset _)
        (otherDepth + 1) fewer.length
    obtain ⟨_, _, laterAfresh, later_eq, unrepeatedLater⟩ :=
      laterHypothesis finished below (append_subset_append subset _) otherDepth otherIndex
    -- The same files were opened inside, so what comes later goes on from fewer files again.
    rw [← inside_eq] at laterAfresh
    refine ⟨_, _, .expanded directive leads (fun known => fresh (subset known)) isText
      insideAfresh laterAfresh, by simp [inside_eq, later_eq], ?_⟩
    exact Emission.unrepeated_append.2
      ⟨Emission.unrepeated_opened.2 unrepeatedInside, unrepeatedLater⟩
  | malformed | missing | overlong | unreadable | stopped => cases finished

/-- A directive of an expansion that repeats no file is expanded somewhere. -/
theorem Descends.exists_inside {text target : String} {line : Nat}
    (descends : workspace.Descends depth location index opened remaining emissions openings halt)
    (finished : halt = none) (unrepeated : Emission.Unrepeated emissions)
    (member : (text, line) ∈ remaining) (directive : SourceLine.classify text = .inclusion target) :
    ∃ place file source before inner above,
      workspace.LeadsTo (location.beside target) place file ∧
      file.text? = some source ∧
      workspace.Descends (depth + 1) place before.length (before ++ [place])
        (numberedLines source) inner above none ∧
      Emission.Unrepeated inner := by
  induction descends with
  | done => cases member
  | code isCode later inductionHypothesis =>
    rcases List.mem_cons.1 member with same | behind
    · cases same
      cases isCode.symm.trans directive
    · exact inductionHypothesis finished (Emission.unrepeated_code.1 unrepeated) behind
  | repeated => exact absurd unrepeated Emission.not_unrepeated
  | expanded here leads fresh isText inside later insideHypothesis laterHypothesis =>
    obtain ⟨above, below⟩ := Emission.unrepeated_append.1 unrepeated
    rcases List.mem_cons.1 member with same | behind
    · cases same
      obtain rfl := SourceLine.inclusion.inj (here.symm.trans directive)
      exact ⟨_, _, _, _, _, _, leads, isText, inside, Emission.unrepeated_opened.1 above⟩
    · exact laterHypothesis finished below behind
  | malformed | missing | overlong | unreadable | stopped => cases finished

/-! ## Resolutions without placeholders -/

/-- Without placeholders no include is repeated. -/
theorem Course.unrepeated {entry : Path} {resolution : Resolution}
    (course : workspace.Course entry limits resolution)
    (plain : resolution.provenance.placeholders = []) :
    Emission.Unrepeated course.emissions := by
  have count := Origin.length_placeholders ((Emission.lines course.trace).map Prod.fst)
  rw [← course.records.placeholders_eq, plain, List.length_nil, eq_comm, List.countP_eq_zero]
    at count
  intro line member
  exact Bool.not_eq_true _ ▸ count line.1 (List.mem_map.2 ⟨line, member, rfl⟩)

/-- The lines of an entry file that repeats no file are resolved to their pasting. -/
theorem Descends.resolve_pastes {entry : Path} {file : File} {source : String}
    (descends : workspace.Descends 0 location 0 [location] (numberedLines source) emissions openings
      none)
    (unrepeated : Emission.Unrepeated emissions)
    (leads : workspace.LeadsTo entry location file) (isText : file.text? = some source)
    (ample : workspace.Ample limits) :
    ∃ resolution, workspace.resolve entry limits = .ok resolution ∧
      workspace.PastesFile entry resolution.unit.lines := by
  -- Limits that do not hold would cut the expansion off, and ample limits cut nothing off.
  have hold : limits.Hold 1 openings := by
    by_contra excess
    exact ample.not_isCutOff (descends.isCutOff leads isText excess)
  refine ⟨_, descends.resolve_eq leads isText hold, location, file, source,
    leads.regular, isText, ?_⟩
  have pastes := descends.pastes rfl unrepeated
  rw [map_fst_numberedLines] at pastes
  rw [entryDraft, Draft.lines_emitAll]
  exact pastes

/-- The target of a directive of a resolution without placeholders resolves to its pasting. -/
theorem Course.target_pastes {entry : Path} {resolution : Resolution} {unlimited : ResolutionLimits}
    {text target : String} (course : workspace.Course entry limits resolution)
    (plain : resolution.provenance.placeholders = []) (ample : workspace.Ample unlimited)
    (member : text ∈ Text.lines course.text)
    (directive : SourceLine.classify text = .inclusion target) :
    ∃ inner, workspace.resolve (course.location.beside target) unlimited = .ok inner ∧
      workspace.PastesFile (course.location.beside target) inner.unit.lines := by
  obtain ⟨openings, accounts⟩ := course.exists_accounts
  obtain ⟨line, here⟩ := exists_atLine?_of_mem member
  obtain ⟨place, file, source, before, inner, above, leads, isText, inside, unrepeated⟩ :=
    Descends.exists_inside accounts rfl (course.unrepeated plain)
      (mem_zipIdx_one_iff.2 here) directive
  obtain ⟨_, _, afresh, -, unrepeatedAfresh⟩ :=
    inside.afresh rfl unrepeated (List.subset_append_right before [place]) 0 0
  exact afresh.resolve_pastes unrepeatedAfresh leads isText ample

/-- A resolution without placeholders is pasting. -/
theorem isPasted_of_resolve {entry : Path} {resolution : Resolution}
    (resolved : workspace.resolve entry limits = .ok resolution)
    (plain : resolution.provenance.placeholders = []) :
    workspace.IsPasted entry resolution := by
  obtain ⟨course⟩ := resolve_ok_iff.1 resolved
  obtain ⟨openings, accounts⟩ := course.exists_accounts
  have pastes := Descends.pastes accounts rfl (course.unrepeated plain)
  rw [map_fst_numberedLines] at pastes
  have lines_eq : resolution.unit.lines = (Emission.lines course.emissions).map Prod.snd :=
    course.unit_lines_eq
  rw [← lines_eq] at pastes
  have pastesFile : workspace.PastesFile entry resolution.unit.lines :=
    ⟨course.location, course.file, course.text, course.leads.regular, course.isText, pastes⟩
  refine ⟨fun pasted => ⟨fun others => others.unique pastesFile, fun same => same ▸ pastesFile⟩, ?_⟩
  intro unlimited ample location file leads earlier text later target lines directive
  obtain ⟨rfl, -⟩ := course.leads.unique leads
  rw [sourceLines_path course.file?_location course.isText] at lines
  obtain ⟨inner, innerResolved, innerPastes⟩ :=
    course.target_pastes plain ample (by simp [lines]) directive
  rw [lines] at pastes
  obtain ⟨before, block, after, unit_eq, pastesEarlier, pastesBlock, pastesLater⟩ :=
    pastes.block directive
  obtain rfl := pastesBlock.unique innerPastes
  exact ⟨inner, before, after, innerResolved, pastesEarlier, pastesLater, unit_eq⟩

/-! ## Files that form a tree -/

namespace Branching

def trunk : Location := [⟨"trunk", by decide⟩]

def folder : Location := [⟨"lib", by decide⟩]

def branch : Location := [⟨"lib", by decide⟩, ⟨"branch", by decide⟩]

def leaf : Location := [⟨"lib", by decide⟩, ⟨"leaf", by decide⟩]

def last : Location := [⟨"last", by decide⟩]

end Branching

/-- `trunk` includes `lib/branch`, which includes its neighbour `leaf`, and then `last`. -/
def branching : Workspace where
  tree := ⟨[
    (Branching.trunk, .file ⟨"a\n#include \"lib/branch\"\nb\n#include \"last\"\n".toUTF8, 1⟩),
    (Branching.folder, .directory),
    (Branching.branch, .file ⟨"c\n#include \"leaf\"\nd\n".toUTF8, 2⟩),
    (Branching.leaf, .file ⟨"e\n".toUTF8, 3⟩),
    (Branching.last, .file ⟨"f".toUTF8, 4⟩)], fun _ => 0⟩
  directory := []

/-- Three files are pasted, one of them below another. -/
theorem isPasted_branching : ∃ resolution,
    branching.resolve ⟨"trunk"⟩ ⟨2, 4⟩ = .ok resolution ∧
      resolution.provenance.placeholders = [] ∧
      resolution.unit.lines = ["a", "c", "e", "d", "b", "f"] ∧
      branching.IsPasted ⟨"trunk"⟩ resolution := by
  have read : (branching.resolve ⟨"trunk"⟩ ⟨2, 4⟩).toOption.map (fun resolution =>
      (resolution.provenance.placeholders, resolution.unit.lines)) =
        some ([], ["a", "c", "e", "d", "b", "f"]) := by decide +kernel
  cases resolved : branching.resolve ⟨"trunk"⟩ ⟨2, 4⟩ with
  | error => simp [resolved, Except.toOption] at read
  | ok resolution =>
    rw [resolved] at read
    obtain ⟨plain, lines⟩ := Prod.mk.inj (Option.some.inj read)
    exact ⟨resolution, rfl, plain, lines, isPasted_of_resolve resolved plain⟩

end Workspace

end LiveShader
