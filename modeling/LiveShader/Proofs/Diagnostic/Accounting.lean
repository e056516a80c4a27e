import Mathlib.Data.List.Forall2
import LiveShader.Diagnostic.Report
import LiveShader.Proofs.Text.Lines

/-!
# Reports account for every line

A report grows line by line of the output (`Report.scan`), in a way that holds for every format,
also for one that is none of the known ones: each line that says something is rewritten by
itself, and adds either a diagnostic or a line that is left unresolved (`Report.Grows`). So
nothing is dropped, merged or moved, and the report of two outputs is made of theirs.
-/

namespace LiveShader

/-- A line of output is rewritten: it is kept if it has no line number, or zero for one, and
otherwise its number is replaced by the place that it is attributed to, if there is one. -/
inductive Rewrites (provenance : Provenance) (parse? : String → Option Complaint)
    (line : String) : Relocation → Prop where
  | unparsed (parsed : parse? line = none) : Rewrites provenance parse? line ⟨line, none⟩
  | lineZero {complaint} (parsed : parse? line = some complaint) (zero : complaint.line = 0) :
      Rewrites provenance parse? line ⟨line, none⟩
  | attributed {complaint place} (parsed : parse? line = some complaint)
      (positive : 0 < complaint.line)
      (attribution : provenance.attribution complaint.line = .own place ∨
        provenance.attribution complaint.line = .enclosing place) :
      Rewrites provenance parse? line
        ⟨complaint.lead ++ place.contributor.display ++ " => " ++ toString place.localLine ++
            complaint.rest,
          some ⟨place.contributor.path, place.contributor.display, place.localLine,
            complaint.message⟩⟩
  | unattributed {complaint} (parsed : parse? line = some complaint)
      (positive : 0 < complaint.line)
      (attribution : provenance.attribution complaint.line = .unresolved) :
      Rewrites provenance parse? line
        ⟨complaint.lead ++ "<unresolved> line " ++ toString complaint.line ++ complaint.rest, none⟩

namespace Report

/-- One more line, which is left unresolved. -/
def leave (report : Report) (text : String) : Report :=
  { report with
    text := report.text ++ "\n" ++ text
    unresolved := report.unresolved ++ [text] }

/-- One more line, and the diagnostic that it is. -/
def diagnose (report : Report) (text : String) (diagnostic : Diagnostic) : Report :=
  { report with
    text := report.text ++ "\n" ++ text
    diagnostics := report.diagnostics ++ [diagnostic] }

/-- One more line of output. Blank ones say nothing. -/
def note (provenance : Provenance) (parse? : String → Option Complaint) (report : Report)
    (line : String) : Report :=
  if Text.allBlank line then report
  else
    match parse? line with
    | none => report.leave line
    | some complaint =>
      if complaint.line = 0 then report.leave line
      else
        match provenance.attribution complaint.line with
        | .own place | .enclosing place =>
          report.diagnose
            (complaint.lead ++ place.contributor.display ++ " => " ++ toString place.localLine ++
              complaint.rest)
            ⟨place.contributor.path, place.contributor.display, place.localLine, complaint.message⟩
        | .unresolved =>
          report.leave
            (complaint.lead ++ "<unresolved> line " ++ toString complaint.line ++ complaint.rest)

/-- The report on output whose lines are parsed in any way, line by line. -/
def scan (raw : String) (provenance : Provenance) (parse? : String → Option Complaint) : Report :=
  (Text.lines raw).foldl (note provenance parse?) ⟨header, [], []⟩

/-- A report grows by lines of output, which are rewritten one by one. Each adds its rewriting
to the text, and to exactly one of the two lists. -/
inductive Grows (provenance : Provenance) (parse? : String → Option Complaint) :
    Report → List String → Report → Prop where
  | done {report} : Grows provenance parse? report [] report
  | diagnosed {report line text diagnostic rest final}
      (rewrites : Rewrites provenance parse? line ⟨text, some diagnostic⟩)
      (later : Grows provenance parse? (report.diagnose text diagnostic) rest final) :
      Grows provenance parse? report (line :: rest) final
  | unresolved {report line text rest final}
      (rewrites : Rewrites provenance parse? line ⟨text, none⟩)
      (later : Grows provenance parse? (report.leave text) rest final) :
      Grows provenance parse? report (line :: rest) final

/-- The report on some output accounts for its lines. -/
structure Accounts (raw : String) (provenance : Provenance)
    (parse? : String → Option Complaint) : Prop where
  grows : Grows provenance parse? ⟨header, [], []⟩ (spokenLines raw) (scan raw provenance parse?)
  relocated : ∃ relocations,
    List.Forall₂ (Rewrites provenance parse?) (spokenLines raw) relocations ∧
      scan raw provenance parse? = ofRelocations relocations
  count_eq : (scan raw provenance parse?).count = (spokenLines raw).length
  /-- More output behind a line feed, or where there was none, is accounted for by itself. -/
  append : raw = "" ∨ raw.toList.getLast? = some '\n' → ∀ more : String,
    (scan (raw ++ more) provenance parse?).diagnostics =
        (scan raw provenance parse?).diagnostics ++ (scan more provenance parse?).diagnostics ∧
      (scan (raw ++ more) provenance parse?).unresolved =
        (scan raw provenance parse?).unresolved ++ (scan more provenance parse?).unresolved ∧
      ∃ body, (scan more provenance parse?).text = header ++ body ∧
        (scan (raw ++ more) provenance parse?).text = (scan raw provenance parse?).text ++ body

end Report

section Rewriting

variable {provenance : Provenance} {parse? : String → Option Complaint} {line : String}
  {first second : Relocation}

/-- A line is rewritten in one way only. -/
theorem Rewrites.unique (one : Rewrites provenance parse? line first)
    (other : Rewrites provenance parse? line second) : first = second := by
  cases one <;> cases other <;> grind

/-- A line is rewritten in one way only. -/
theorem rewrites_rightUnique : Relator.RightUnique (Rewrites provenance parse?) :=
  fun _ _ _ one other => one.unique other

/-- The relocation of a line is its rewriting. -/
theorem rewrites_ofLine (provenance : Provenance) (format : DiagnosticFormat) (line : String) :
    Rewrites provenance format.parse? line (Relocation.ofLine provenance format line) := by
  unfold Relocation.ofLine
  split
  · exact .unparsed ‹_›
  · split
    · exact .lineZero ‹_› ‹_›
    · have positive := Nat.pos_of_ne_zero ‹¬ _›
      split
      · exact .attributed ‹_› positive (.inl ‹_›)
      · exact .attributed ‹_› positive (.inr ‹_›)
      · exact .unattributed ‹_› positive ‹_›

end Rewriting

namespace Report

variable {provenance : Provenance} {parse? : String → Option Complaint} {report final : Report}
  {line : String} {lines : List String}

/-- The report with more relocations behind it. -/
def extend (report : Report) (relocations : List Relocation) : Report where
  text := report.text ++ String.join (relocations.map fun relocation => "\n" ++ relocation.text)
  diagnostics := report.diagnostics ++ relocations.filterMap Relocation.diagnostic?
  unresolved := report.unresolved ++
    (relocations.filter (·.diagnostic?.isNone)).map Relocation.text

/-- Nothing more leaves a report as it is. -/
theorem extend_nil (report : Report) : report.extend [] = report := by
  simp [extend]

/-- A line with a complaint that could be placed is diagnosed. -/
theorem extend_diagnosed (report : Report) (text : String) (diagnostic : Diagnostic)
    (relocations : List Relocation) :
    report.extend (⟨text, some diagnostic⟩ :: relocations) =
      (report.diagnose text diagnostic).extend relocations := by
  simp [extend, diagnose, String.append_assoc]

/-- A line without a complaint that could be placed is left as it is. -/
theorem extend_unresolved (report : Report) (text : String) (relocations : List Relocation) :
    report.extend (⟨text, none⟩ :: relocations) = (report.leave text).extend relocations := by
  simp [extend, leave, String.append_assoc]

/-- A report is its header, extended line by line. -/
theorem ofRelocations_eq (relocations : List Relocation) :
    ofRelocations relocations = (⟨header, [], []⟩ : Report).extend relocations := by
  simp [ofRelocations, extend]

/-- A line that says something adds a diagnostic, or is left unresolved. -/
theorem note_spoken (report : Report) (spoken : Text.allBlank line = false) :
    (∃ text diagnostic, Rewrites provenance parse? line ⟨text, some diagnostic⟩ ∧
      note provenance parse? report line = report.diagnose text diagnostic) ∨
    ∃ text, Rewrites provenance parse? line ⟨text, none⟩ ∧
      note provenance parse? report line = report.leave text := by
  rw [note, if_neg (by simp [spoken])]
  split
  · exact .inr ⟨line, .unparsed ‹_›, rfl⟩
  · split
    · exact .inr ⟨line, .lineZero ‹_› ‹_›, rfl⟩
    · have positive := Nat.pos_of_ne_zero ‹¬ _›
      split
      · exact .inl ⟨_, _, .attributed ‹_› positive (.inl ‹_›), rfl⟩
      · exact .inl ⟨_, _, .attributed ‹_› positive (.inr ‹_›), rfl⟩
      · exact .inr ⟨_, .unattributed ‹_› positive ‹_›, rfl⟩

/-- A report grows by the lines of output that say something. -/
theorem grows_foldl (provenance : Provenance) (parse? : String → Option Complaint)
    (report : Report) (lines : List String) :
    Grows provenance parse? report (lines.filter fun line => !Text.allBlank line)
      (lines.foldl (note provenance parse?) report) := by
  induction lines generalizing report with
  | nil => exact .done
  | cons line rest inductionHypothesis =>
    rw [List.foldl_cons]
    cases spoken : Text.allBlank line with
    | true =>
      rw [note, if_pos spoken, List.filter_cons_of_neg (by simp [spoken])]
      exact inductionHypothesis report
    | false =>
      rw [List.filter_cons_of_pos (by simp [spoken])]
      rcases note_spoken report spoken with
        ⟨text, diagnostic, rewrites, noted⟩ | ⟨text, rewrites, noted⟩
      · rw [noted]
        exact .diagnosed rewrites (inductionHypothesis _)
      · rw [noted]
        exact .unresolved rewrites (inductionHypothesis _)

namespace Grows

/-- A report has grown by the rewritings of the lines, in their order. -/
theorem exists_relocations (grows : Grows provenance parse? report lines final) :
    ∃ relocations, List.Forall₂ (Rewrites provenance parse?) lines relocations ∧
      final = report.extend relocations := by
  induction grows with
  | done => exact ⟨[], .nil, (extend_nil _).symm⟩
  | diagnosed rewrites later inductionHypothesis =>
    obtain ⟨relocations, rewritten, rfl⟩ := inductionHypothesis
    exact ⟨_ :: relocations, .cons rewrites rewritten, (extend_diagnosed _ _ _ _).symm⟩
  | unresolved rewrites later inductionHypothesis =>
    obtain ⟨relocations, rewritten, rfl⟩ := inductionHypothesis
    exact ⟨_ :: relocations, .cons rewrites rewritten, (extend_unresolved _ _ _).symm⟩

/-- A report counts the lines that it has grown by. -/
theorem count_eq (grows : Grows provenance parse? report lines final) :
    final.count = report.count + lines.length := by
  induction grows with
  | done => rfl
  | diagnosed rewrites later inductionHypothesis =>
    rw [inductionHypothesis, List.length_cons]
    simp only [count, diagnose, List.length_append, List.length_singleton]
    omega
  | unresolved rewrites later inductionHypothesis =>
    rw [inductionHypothesis, List.length_cons]
    simp only [count, leave, List.length_append, List.length_singleton]
    omega

end Grows

/-- The rewritings of the lines of some output do not depend on the report that they are added
to. -/
theorem exists_extend (raw : String) (provenance : Provenance)
    (parse? : String → Option Complaint) :
    ∃ relocations, List.Forall₂ (Rewrites provenance parse?) (spokenLines raw) relocations ∧
      ∀ report : Report,
        (Text.lines raw).foldl (note provenance parse?) report = report.extend relocations := by
  have grows := grows_foldl provenance parse?
  obtain ⟨relocations, rewritten, -⟩ := (grows ⟨header, [], []⟩ (Text.lines raw)).exists_relocations
  refine ⟨relocations, rewritten, fun report => ?_⟩
  obtain ⟨same, sameRewritten, grown⟩ := (grows report (Text.lines raw)).exists_relocations
  rw [grown, rewrites_rightUnique.forall₂ sameRewritten rewritten]

/-- The report on output is what is found line by line. -/
theorem ofOutput_eq_scan (raw : String) (provenance : Provenance) (format : DiagnosticFormat) :
    ofOutput raw provenance format = scan raw provenance format.parse? := by
  obtain ⟨relocations, rewritten, grown⟩ := exists_extend raw provenance format.parse?
  have relocated : List.Forall₂ (Rewrites provenance format.parse?) (spokenLines raw)
      ((spokenLines raw).map (Relocation.ofLine provenance format)) := by
    rw [List.forall₂_map_right_iff, List.forall₂_same]
    exact fun line _ => rewrites_ofLine provenance format line
  rw [scan, grown, ofOutput, ofRelocations_eq, rewrites_rightUnique.forall₂ rewritten relocated]

/-- A report accounts for every line of output, however its lines are parsed. -/
theorem accounts (raw : String) (provenance : Provenance) :
    (∀ format : DiagnosticFormat,
      ofOutput raw provenance format = scan raw provenance format.parse?) ∧
    ∀ parse? : String → Option Complaint, Accounts raw provenance parse? := by
  refine ⟨ofOutput_eq_scan raw provenance, fun parse? => ?_⟩
  have grows := grows_foldl provenance parse? ⟨header, [], []⟩ (Text.lines raw)
  obtain ⟨relocations, rewritten, grown⟩ := exists_extend raw provenance parse?
  exact {
    grows
    relocated := ⟨relocations, rewritten, (grown _).trans (ofRelocations_eq relocations).symm⟩
    count_eq := grows.count_eq.trans (Nat.zero_add _)
    append := fun ends more => by
      obtain ⟨later, -, grownLater⟩ := exists_extend more provenance parse?
      have more_eq : scan more provenance parse? = (⟨header, [], []⟩ : Report).extend later :=
        grownLater _
      have whole_eq : scan (raw ++ more) provenance parse? =
          (scan raw provenance parse?).extend later := by
        rw [scan, Text.lines_append ends, List.foldl_append, grownLater, scan]
      rw [whole_eq, more_eq]
      exact ⟨by simp [extend], by simp [extend], _, rfl, rfl⟩ }

/-- Carriage returns at a line feed and blank lines add nothing. -/
example :
    let report := ofOutput "odd\r\n0(0) : zero\n \n0(99) : far" (Provenance.empty ⟨"/"⟩) .paren
    report.diagnostics = [] ∧
      report.unresolved = ["odd", "0(0) : zero", "<unresolved> line 99 : far"] := by
  decide +kernel

end Report

end LiveShader
