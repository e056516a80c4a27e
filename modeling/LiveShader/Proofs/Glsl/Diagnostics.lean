import LiveShader.Glsl.Compiler
import LiveShader.Proofs.Diagnostic.Accounting
import LiveShader.Proofs.Diagnostic.Paren
import LiveShader.Proofs.Resolution.Course

/-!
# What the GLSL compiler writes is read back

The compiler writes the errors of its front end in one module, and its format reads them in
another. They agree on every error whose text stays on its line (`SourceError.FitsLine`),
whatever else the text holds: it is split off, parsed and relocated as one line.
-/

namespace LiveShader.Glsl

/-- The line that an error is on, unless that is unknown. -/
def SourceError.line? (source : String) (error : SourceError) : Option Nat :=
  (error.span.filter Span.isDefined).map fun span => lineOfByte source span.start

/-- The errors for which a verdict refuses a source. -/
def Verdict.faults : Verdict → List SourceError
  | .rejected errors => errors
  | .invalid spans chain =>
    [⟨spans.findSome? fun span => span.filter Span.isDefined, ": ".intercalate chain⟩]
  | .accepted _ => []

/-- An error whose text stays on one line. Line numbers have 32 bits. -/
structure SourceError.FitsLine (source : String) (error : SourceError) : Prop where
  noFeed : '\n' ∉ error.text.toList
  noReturn : error.text.toList.getLast? ≠ some '\r'
  small : ∀ line ∈ error.line? source, line < Text.lineBound

/-- The line of output on an error that is nowhere. -/
def unplacedLine (text : String) : String :=
  "0 : error: " ++ text

/-- The line of output on an error. -/
def SourceError.outputLine (source : String) (error : SourceError) : String :=
  match error.line? source with
  | some line => parenLine line (" : error: " ++ error.text)
  | none => unplacedLine error.text

/-- What a report makes of an error: a diagnostic at the place that its line is attributed to, if
that is a line of the unit, and otherwise a line that is left unresolved. -/
inductive Lands (provenance : Provenance) (source : String) (error : SourceError) :
    Relocation → Prop where
  | placed {line place} (isOn : error.line? source = some line) (first : 1 ≤ line)
      (last : line ≤ provenance.totalLines)
      (attribution : provenance.attribution line = .own place ∨
        provenance.attribution line = .enclosing place) :
      Lands provenance source error
        ⟨place.contributor.display ++ " => " ++ toString place.localLine ++
            (" : error: " ++ error.text),
          some ⟨place.contributor.path, place.contributor.display, place.localLine,
            Text.trimEnd ("error: " ++ error.text)⟩⟩
  | outside {line} (isOn : error.line? source = some line)
      (outside : ¬ (1 ≤ line ∧ line ≤ provenance.totalLines)) :
      Lands provenance source error
        ⟨"<unresolved> line " ++ toString line ++ (" : error: " ++ error.text), none⟩
  | unplaced (isNowhere : error.line? source = none) :
      Lands provenance source error ⟨unplacedLine error.text, none⟩

/-- Output on errors in a source is what a format reads. -/
structure Agrees (format : DiagnosticFormat) (source raw : String) (errors : List SourceError) :
    Prop where
  lines_eq : Text.lines raw = errors.map (SourceError.outputLine source)
  parsed : ∀ error ∈ errors, ∀ line, error.line? source = some line →
    format.parse? (error.outputLine source) = some ⟨"", line, " : error: " ++ error.text⟩
  unparsed : ∀ error ∈ errors, error.line? source = none →
    format.parse? (error.outputLine source) = none
  report : ∀ (workspace : Workspace) (entry : Path) (limits : ResolutionLimits) (resolution),
    workspace.resolve entry limits = .ok resolution →
      ∃ relocations, List.Forall₂ (Lands resolution.provenance source) errors relocations ∧
        Report.ofOutput raw resolution.provenance format = .ofRelocations relocations

variable {source : String} {error : SourceError} {errors : List SourceError} {verdict : Verdict}

/-! ## Lines are written -/

/-- A diagnostic is one line of output, with a line feed behind it. -/
theorem diagnosticLine_eq (source : String) (error : SourceError) :
    diagnosticLine source error.span error.text = error.outputLine source ++ "\n" := by
  unfold diagnosticLine SourceError.outputLine SourceError.line?
  cases error.span.filter Span.isDefined with
  | none => rfl
  | some span =>
    have behind : (") : error: " : String) = ")" ++ " : error: " := rfl
    simp only [Option.map_some, parenLine, behind, String.append_assoc]

/-- A source that is refused is answered line by line. -/
theorem Verdict.compile_eq (refuses : ∀ module, verdict ≠ .accepted module) :
    verdict.compile source =
      .error (Text.unlines (verdict.faults.map (SourceError.outputLine source))) := by
  cases verdict with
  | accepted module => exact absurd rfl (refuses module)
  | rejected errors =>
    simp only [compile, faults, Text.unlines, List.map_map, Function.comp_def, diagnosticLine_eq]
  | invalid spans chain =>
    have line_eq := diagnosticLine_eq source
      ⟨spans.findSome? fun span => span.filter Span.isDefined, ": ".intercalate chain⟩
    simp only [compile, faults, Text.unlines, List.map_cons, List.map_nil, line_eq]
    rw [String.join_cons, String.join_nil, String.append_empty]

/-! ## Lines are read -/

/-- What a line of output on an error ends in. -/
theorem exists_outputLine_eq (source : String) (error : SourceError) :
    ∃ front, '\n' ∉ front ∧
      (error.outputLine source).toList = front ++ ' ' :: error.text.toList := by
  unfold SourceError.outputLine
  split
  · rename_i line _
    have noFeed : '\n' ∉ Nat.toDigits 10 line := fun feed =>
      absurd (Nat.isDigit_of_mem_toDigits (by decide) (by decide) feed) (by decide)
    exact ⟨'0' :: '(' :: (Nat.toDigits 10 line ++ ") : error:".toList), by simp [noFeed],
      by simp [toList_parenLine]⟩
  · exact ⟨"0 : error:".toList, by decide, by simp [unplacedLine]⟩

/-- There is no line feed in a line of output. -/
theorem not_mem_outputLine (fits : error.FitsLine source) :
    '\n' ∉ (error.outputLine source).toList := by
  obtain ⟨front, noFeed, line_eq⟩ := exists_outputLine_eq source error
  simp [line_eq, noFeed, fits.noFeed]

/-- A line of output does not end in a return. -/
theorem dropReturn_outputLine (fits : error.FitsLine source) :
    Text.dropReturn (error.outputLine source).toList = (error.outputLine source).toList := by
  obtain ⟨front, -, line_eq⟩ := exists_outputLine_eq source error
  refine if_neg fun isReturn => ?_
  rw [line_eq, List.getLast?_append, List.getLast?_cons] at isReturn
  cases last : error.text.toList.getLast? with
  | none => simp [last] at isReturn
  | some character =>
    refine fits.noReturn ?_
    simpa [last] using isReturn

/-- Output on errors that fit on their lines has one line for each, in their order. -/
theorem lines_unlines_outputLine (fits : ∀ error ∈ errors, error.FitsLine source) :
    Text.lines (Text.unlines (errors.map (SourceError.outputLine source))) =
      errors.map (SourceError.outputLine source) := by
  have areLines : Text.AreLines (errors.map (SourceError.outputLine source)) := by
    intro line member
    obtain ⟨error, isError, rfl⟩ := List.mem_map.1 member
    exact not_mem_outputLine (fits error isError)
  rw [Text.lines_unlines areLines, List.map_map]
  refine List.map_congr_left fun error isError => ?_
  rw [Function.comp_apply, dropReturn_outputLine (fits error isError), String.ofList_toList]

/-- A line on no line of a source is never parsed, whatever the text says. -/
theorem parse?_unplacedLine (text : String) :
    DiagnosticFormat.paren.parse? (unplacedLine text) = none := by
  have start : (unplacedLine text).toList = '0' :: ' ' :: (": error: ".toList ++ text.toList) := by
    simp [unplacedLine]
  rw [DiagnosticFormat.parse?, DiagnosticFormat.parseParen?, start,
    List.dropWhile_cons_of_neg (by decide), List.dropWhile_cons_of_pos (by decide),
    List.dropWhile_cons_of_neg (by decide)]
  rfl

/-- A line of output is parsed to the line of its error and its text. -/
theorem parse?_outputLine (fits : error.FitsLine source) :
    DiagnosticFormat.paren.parse? (error.outputLine source) =
      (error.line? source).map fun line => ⟨"", line, " : error: " ++ error.text⟩ := by
  unfold SourceError.outputLine
  cases isOn : error.line? source with
  | none => exact parse?_unplacedLine error.text
  | some line => exact parse?_parenLine (fits.small line isOn) _

/-- There is something to read in a line of output. -/
theorem allBlank_outputLine (source : String) (error : SourceError) :
    Text.allBlank (error.outputLine source) = false := by
  unfold SourceError.outputLine
  split
  · exact allBlank_parenLine _ _
  · have notBlank : Text.isBlank '0' = false := by decide
    simp [unplacedLine, Text.allBlank, notBlank]

/-! ## Lines are relocated -/

/-- What a report says of a complaint is the text of its error. -/
theorem message_eq (line : Nat) (text : String) :
    Complaint.message ⟨"", line, " : error: " ++ text⟩ = Text.trimEnd ("error: " ++ text) := by
  have start : (" : error: " ++ text).toList =
      ' ' :: ':' :: ' ' :: ("error: " ++ text).toList := by simp
  have word : ("error: " ++ text).toList = 'e' :: ("rror: " ++ text).toList := by simp
  rw [Complaint.message, start, List.dropWhile_cons_of_pos (by decide),
    List.dropWhile_cons_of_pos (by decide), List.dropWhile_cons_of_pos (by decide), word,
    List.dropWhile_cons_of_neg (by decide), ← word, String.ofList_toList]

/-- Lines count from one. -/
theorem SourceError.line?_pos {line : Nat} (isOn : error.line? source = some line) : 1 ≤ line := by
  obtain ⟨span, -, rfl⟩ := Option.map_eq_some_iff.1 isOn
  exact Nat.le_add_left _ _

/-- An error lands where the rewriting of its line says. -/
theorem lands_of_rewrites {provenance : Provenance} {origins : List Origin}
    {relocation : Relocation} (records : provenance.Records origins)
    (fits : error.FitsLine source)
    (rewrites : Rewrites provenance DiagnosticFormat.paren.parse? (error.outputLine source)
      relocation) :
    Lands provenance source error relocation := by
  have read := parse?_outputLine fits
  cases isOn : error.line? source with
  | none =>
    rw [isOn, Option.map_none] at read
    cases rewrites with
    | unparsed parsed =>
      have line_eq : error.outputLine source = unplacedLine error.text := by
        simp only [SourceError.outputLine, isOn]
      exact line_eq ▸ .unplaced isOn
    | lineZero parsed | attributed parsed | unattributed parsed =>
      rw [read] at parsed
      cases parsed
  | some line =>
    have first := SourceError.line?_pos isOn
    rw [isOn, Option.map_some] at read
    cases rewrites with
    | unparsed parsed =>
      rw [read] at parsed
      cases parsed
    | lineZero parsed zero =>
      rw [read] at parsed
      cases parsed
      exact absurd zero (Nat.ne_of_gt first)
    | attributed parsed positive attribution =>
      rw [read] at parsed
      cases parsed
      have attributed : provenance.attribution line ≠ .unresolved := by
        rcases attribution with isOwn | isEnclosing
        · simp [isOwn]
        · simp [isEnclosing]
      have inside := mt records.attribution_unresolved_iff.2 attributed
      rw [message_eq, String.empty_append]
      exact .placed isOn first (by omega) attribution
    | unattributed parsed positive attribution =>
      rw [read] at parsed
      cases parsed
      have outside := records.attribution_unresolved_iff.1 attribution
      rw [String.empty_append]
      exact .outside isOn fun inside => by omega

/-- The report on output has one entry for each error. -/
theorem exists_relocations {provenance : Provenance} {origins : List Origin} {raw : String}
    (records : provenance.Records origins) (fits : ∀ error ∈ errors, error.FitsLine source)
    (lines_eq : Text.lines raw = errors.map (SourceError.outputLine source)) :
    ∃ relocations, List.Forall₂ (Lands provenance source) errors relocations ∧
      Report.ofOutput raw provenance .paren = .ofRelocations relocations := by
  have spoken : Report.spokenLines raw = errors.map (SourceError.outputLine source) := by
    rw [Report.spokenLines, lines_eq]
    simp [List.filter_map, Function.comp_def, allBlank_outputLine]
  obtain ⟨relocations, rewritten, grown⟩ :=
    Report.exists_extend raw provenance DiagnosticFormat.paren.parse?
  refine ⟨relocations, ?_, ?_⟩
  · rw [spoken, List.forall₂_map_left_iff] at rewritten
    exact ((List.forall₂_and_left _ _).2 ⟨fits, rewritten⟩).imp fun error relocation both =>
      lands_of_rewrites records both.1 both.2
  · rw [Report.ofOutput_eq_scan, Report.scan, grown, Report.ofRelocations_eq]

/-- Whatever a front end says about a source it refuses, its compiler writes what the format
of the compiler reads. -/
theorem compiler_agrees {State : Type} (analyse : State → String → Stage → Verdict × State)
    (state : State) (source : String) (stage : Stage)
    (refuses : ∀ module, (analyse state source stage).1 ≠ .accepted module)
    (fits : ∀ error ∈ (analyse state source stage).1.faults, error.FitsLine source) :
    (∀ text, (compiler analyse).format.parse? (unplacedLine text) = none) ∧
    ∃ raw, ((compiler analyse).compile state source stage).1 = .error raw ∧
      Agrees (compiler analyse).format source raw (analyse state source stage).1.faults := by
  have lines_eq := lines_unlines_outputLine fits
  refine ⟨parse?_unplacedLine, _, ?_, lines_eq, fun error isError line isOn => ?_,
    fun error isError isNowhere => ?_, fun workspace entry limits resolution resolved => ?_⟩
  · simp only [compiler, Verdict.compile_eq refuses]
    rfl
  · exact (parse?_outputLine (fits error isError)).trans (by rw [isOn, Option.map_some])
  · exact (parse?_outputLine (fits error isError)).trans (by rw [isNowhere, Option.map_none])
  · obtain ⟨course⟩ := Workspace.resolve_ok_iff.1 resolved
    exact exists_relocations course.records fits lines_eq

namespace Undeclared

/-- A unit that uses a variable without declaring it. -/
def text : String := "#version 450\nfloat g() \x7b\n  return yy;\n\x7d\n"

def fault : SourceError := ⟨some ⟨34, 36⟩, "Unknown variable: yy"⟩

/-- A front end, as far as it reads this unit. -/
def analyse (state : Unit) (read : String) (_ : Stage) : Verdict × Unit :=
  (if read = text then .rejected [fault] else .accepted ⟨[]⟩, state)

end Undeclared

/-- A name that is not declared, on the third line of a fragment shader. -/
theorem compiler_agrees_undeclared :
    (∀ module, (Undeclared.analyse () Undeclared.text .fragment).1 ≠ .accepted module) ∧
    (∀ error ∈ (Undeclared.analyse () Undeclared.text .fragment).1.faults,
      error.FitsLine Undeclared.text) ∧
    Undeclared.fault.line? Undeclared.text = some 3 ∧
    ∃ raw, ((compiler Undeclared.analyse).compile () Undeclared.text .fragment).1 = .error raw ∧
      Agrees .paren Undeclared.text raw [Undeclared.fault] := by
  have verdict : (Undeclared.analyse () Undeclared.text .fragment).1 =
      .rejected [Undeclared.fault] := by simp [Undeclared.analyse]
  have line_eq : Undeclared.fault.line? Undeclared.text = some 3 := by decide +kernel
  have refuses : ∀ module, (Undeclared.analyse () Undeclared.text .fragment).1 ≠
      .accepted module := by simp [verdict]
  have fits : ∀ error ∈ (Undeclared.analyse () Undeclared.text .fragment).1.faults,
      error.FitsLine Undeclared.text := by
    rw [verdict]
    exact List.forall_mem_singleton.2 ⟨by decide, by decide, by rw [line_eq]; decide⟩
  obtain ⟨-, raw, compiled, agrees⟩ :=
    compiler_agrees Undeclared.analyse () Undeclared.text .fragment refuses fits
  rw [verdict] at agrees
  exact ⟨refuses, fits, line_eq, raw, compiled, agrees⟩

end LiveShader.Glsl
