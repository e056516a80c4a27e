import LiveShader.Proofs.FileTree.Canonicalization
import LiveShader.Proofs.Resolution.Emission

/-!
# The course of an expansion

`Unfolds` says what expanding lines of a file emits and how it ends, without a draft: the
locations opened so far are all that decides. `expand` computes exactly that
(`Unfolds.foldlM_eq`), and every expansion has such a course (`exists_unfolds`), so each
fact on expansions is one induction on `Unfolds`.
-/

namespace LiveShader

/-- The path that a directive of a file names: its target, seen from the file's directory. -/
def Location.beside (location : Location) (target : String) : Path :=
  (Location.path location.dropLast).join ⟨target⟩

/-- Why an expansion stopped, and the stamp of the file that was missing, if one was. -/
structure Halt where
  error : ResolutionError
  missing : Option Stamp

/-- How an expansion ends that has grown a draft so far. -/
def Draft.finish (draft : Draft) : Option Halt → Except Abort Draft
  | none => .ok draft
  | some halt => .error ⟨draft, halt.error, halt.missing⟩

/-- How a resolution ends whose expansion has grown a draft so far. -/
def Draft.conclude (draft : Draft) : Option Halt → Except FailedResolution Resolution
  | none => .ok ⟨⟨draft.lines⟩, draft.provenance⟩
  | some halt => .error ⟨halt.error, draft.provenance.stamps ++ halt.missing.toList⟩

namespace Workspace

variable (workspace : Workspace) (limits : ResolutionLimits)

/-- What expanding lines of a file emits, and why it stops, if it does. `nesting` more
levels are allowed below the file, which is contributor `index`, and `opened` are the
locations of the contributors so far. -/
inductive Unfolds : Nat → Location → Nat → List Location → List (String × Nat) →
    List Emission → Option Halt → Prop where
  | done {nesting location index opened} : Unfolds nesting location index opened [] [] none
  | code {nesting location index opened text line rest emissions halt}
      (isCode : SourceLine.classify text = .code)
      (later : Unfolds nesting location index opened rest emissions halt) :
      Unfolds nesting location index opened ((text, line) :: rest)
        (.code index line text :: emissions) halt
  | repeated {nesting location index opened text line rest target place file emissions halt}
      (directive : SourceLine.classify text = .inclusion target)
      (leads : workspace.LeadsTo (location.beside target) place file)
      (known : place ∈ opened)
      (later : Unfolds nesting location index opened rest emissions halt) :
      Unfolds nesting location index opened ((text, line) :: rest)
        (.repeated index line location place :: emissions) halt
  | expanded {nesting location index opened text line rest target place file source inner
        emissions halt}
      (directive : SourceLine.classify text = .inclusion target)
      (leads : workspace.LeadsTo (location.beside target) place file)
      (fresh : place ∉ opened) (room : opened.length < limits.maxFiles)
      (isText : file.text? = some source)
      (inside : Unfolds nesting place opened.length (opened ++ [place]) (numberedLines source)
        inner none)
      (later : Unfolds (nesting + 1) location index
        (opened ++ place :: Emission.locations inner) rest emissions halt) :
      Unfolds (nesting + 1) location index opened ((text, line) :: rest)
        (.opened place file :: inner ++ emissions) halt
  | malformed {nesting location index opened text line rest}
      (isMalformed : SourceLine.classify text = .malformed) :
      Unfolds nesting location index opened ((text, line) :: rest) []
        (some ⟨.malformedInclude location.path line (Text.trim text), none⟩)
  | missing {nesting location index opened text line rest target}
      (directive : SourceLine.classify text = .inclusion target)
      (leads : workspace.regular? (location.beside target) = none) :
      Unfolds nesting location index opened ((text, line) :: rest) []
        (some ⟨.missingFile (location.beside target) (some (location.path, line)),
          some (workspace.stamp (location.beside target))⟩)
  | overlong {nesting location index opened text line rest target place file}
      (directive : SourceLine.classify text = .inclusion target)
      (leads : workspace.regular? (location.beside target) = some (place, file))
      (overlong : workspace.IsOverlong (location.beside target)) :
      Unfolds nesting location index opened ((text, line) :: rest) []
        (some ⟨.unreadable (location.beside target) Fault.nameTooLong.message, none⟩)
  | tooDeep {location index opened text line rest target place file}
      (directive : SourceLine.classify text = .inclusion target)
      (leads : workspace.LeadsTo (location.beside target) place file)
      (fresh : place ∉ opened) :
      Unfolds 0 location index opened ((text, line) :: rest) []
        (some ⟨.tooManyIncludes place.path limits.maxDepth, none⟩)
  | tooMany {nesting location index opened text line rest target place file}
      (directive : SourceLine.classify text = .inclusion target)
      (leads : workspace.LeadsTo (location.beside target) place file)
      (fresh : place ∉ opened) (full : limits.maxFiles ≤ opened.length) :
      Unfolds (nesting + 1) location index opened ((text, line) :: rest) []
        (some ⟨.tooManyIncludes place.path limits.maxFiles, none⟩)
  | unreadable {nesting location index opened text line rest target place file}
      (directive : SourceLine.classify text = .inclusion target)
      (leads : workspace.LeadsTo (location.beside target) place file)
      (fresh : place ∉ opened) (room : opened.length < limits.maxFiles)
      (notText : file.text? = none) :
      Unfolds (nesting + 1) location index opened ((text, line) :: rest) [.opened place file]
        (some ⟨.unreadable place.path Fault.notUtf8.message, none⟩)
  | stopped {nesting location index opened text line rest target place file source inner halt}
      (directive : SourceLine.classify text = .inclusion target)
      (leads : workspace.LeadsTo (location.beside target) place file)
      (fresh : place ∉ opened) (room : opened.length < limits.maxFiles)
      (isText : file.text? = some source)
      (inside : Unfolds nesting place opened.length (opened ++ [place]) (numberedLines source)
        inner (some halt)) :
      Unfolds (nesting + 1) location index opened ((text, line) :: rest)
        (.opened place file :: inner) (some halt)

variable {workspace limits}

/-- Lines of every file have a course, whatever was opened before. -/
theorem exists_unfolds (nesting : Nat) (location : Location) (index : Nat)
    (opened : List Location) (remaining : List (String × Nat)) :
    ∃ emissions halt,
      workspace.Unfolds limits nesting location index opened remaining emissions halt := by
  induction nesting using Nat.strongRecOn generalizing location index opened remaining with
  | ind nesting deeper =>
    induction remaining generalizing opened with
    | nil => exact ⟨[], none, .done⟩
    | cons numbered rest inductionHypothesis =>
      obtain ⟨text, line⟩ := numbered
      obtain ⟨emissions, halt, later⟩ := inductionHypothesis opened
      cases kind : SourceLine.classify text with
      | code => exact ⟨_, _, .code kind later⟩
      | malformed => exact ⟨_, _, .malformed kind⟩
      | inclusion target =>
        cases leads : workspace.regular? (location.beside target) with
        | none => exact ⟨_, _, .missing kind leads⟩
        | some found =>
          obtain ⟨place, file⟩ := found
          rcases leadsTo_or_overlong leads with leads | overlong
          · by_cases known : place ∈ opened
            · exact ⟨_, _, .repeated kind leads known later⟩
            -- A file that was not opened yet: the limits, then its text, then its lines decide.
            · cases nesting with
              | zero => exact ⟨_, _, .tooDeep kind leads known⟩
              | succ nesting =>
                by_cases full : limits.maxFiles ≤ opened.length
                · exact ⟨_, _, .tooMany kind leads known full⟩
                · have room : opened.length < limits.maxFiles := Nat.lt_of_not_le full
                  cases isText : file.text? with
                  | none => exact ⟨_, _, .unreadable kind leads known room isText⟩
                  | some source =>
                    obtain ⟨inner, ending, inside⟩ := deeper nesting (Nat.lt_succ_self nesting)
                      place opened.length (opened ++ [place]) (numberedLines source)
                    cases ending with
                    | some halt => exact ⟨_, _, .stopped kind leads known room isText inside⟩
                    | none =>
                      obtain ⟨emissions, halt, later⟩ :=
                        inductionHypothesis (opened ++ place :: Emission.locations inner)
                      exact ⟨_, _, .expanded kind leads known room isText inside later⟩
          · exact ⟨_, _, .overlong kind leads overlong⟩

end Workspace

/-! ## The course decides the draft -/

namespace Draft

/-- The files of a draft are those opened, in their order. -/
def Opened (draft : Draft) (opened : List Location) : Prop :=
  draft.paths = opened.map Location.path

variable {draft : Draft} {opened : List Location}

/-- A draft holds as many contributors as files were opened. -/
theorem Opened.size_eq (isOpened : draft.Opened opened) :
    draft.provenance.size = opened.length := by
  rw [size_eq_length_paths, isOpened, List.length_map]

/-- A draft knows exactly the files that were opened. -/
theorem Opened.contains_iff (isOpened : draft.Opened opened) (place : Location) :
    draft.provenance.contains place.path = true ↔ place ∈ opened := by
  rw [Draft.contains_iff, isOpened]
  constructor
  · rintro ⟨_, member, same⟩
    obtain ⟨other, otherMember, rfl⟩ := List.mem_map.1 member
    exact Location.same_path_iff.1 same ▸ otherMember
  · intro member
    exact ⟨place.path, List.mem_map.2 ⟨place, member, rfl⟩, rfl⟩

/-- What is emitted opens its locations behind those that were. -/
theorem Opened.emitAll (isOpened : draft.Opened opened) (emissions : List Emission) :
    (draft.emitAll emissions).Opened (opened ++ Emission.locations emissions) := by
  rw [Opened, paths_emitAll, isOpened, List.map_append]

/-- A line of code opens no file. -/
theorem Opened.addCode (isOpened : draft.Opened opened) (index localLine : Nat) (text : String) :
    (draft.addCode index localLine text).Opened opened := by
  simpa using isOpened.emitAll [.code index localLine text]

/-- A repeated directive opens no file. -/
theorem Opened.addRepeated (isOpened : draft.Opened opened) (index localLine : Nat)
    (includer target : Location) :
    (draft.addRepeated index localLine includer.path target.path).Opened opened := by
  simpa using isOpened.emitAll [.repeated index localLine includer target]

/-- To open a file puts it behind those that were. -/
theorem Opened.openFile (isOpened : draft.Opened opened) (place : Location) (file : File) :
    (draft.openFile place file).Opened (opened ++ [place]) :=
  isOpened.emitAll [.opened place file]

/-- No file is opened at first. -/
theorem opened_empty (root : Path) : (Draft.empty root).Opened [] := rfl

end Draft

namespace Workspace

variable {workspace : Workspace} {limits : ResolutionLimits}

section ExpandLine

variable {descend : Location → File → Draft → Except Abort Draft} {location : Location}
  {index line : Nat} {draft : Draft} {text target : String}

/-- A line of code is added to the draft. -/
theorem expandLine_code (isCode : SourceLine.classify text = .code) :
    workspace.expandLine descend location index draft (text, line) =
      .ok (draft.addCode index line text) := by
  simp [expandLine, isCode]

/-- A malformed line is blamed, with its blanks trimmed. -/
theorem expandLine_malformed (isMalformed : SourceLine.classify text = .malformed) :
    workspace.expandLine descend location index draft (text, line) =
      .error ⟨draft, .malformedInclude location.path line (Text.trim text), none⟩ := by
  simp [expandLine, isMalformed]

/-- A directive without a regular file is blamed, and what it names is left to watch. -/
theorem expandLine_missing (directive : SourceLine.classify text = .inclusion target)
    (leads : workspace.regular? (location.beside target) = none) :
    workspace.expandLine descend location index draft (text, line) =
      .error ⟨draft, .missingFile (location.beside target) (some (location.path, line)),
        some (workspace.stamp (location.beside target))⟩ := by
  rw [Location.beside] at leads
  simp [expandLine, directive, leads, Location.beside]

/-- A directive to a known file is repeated; otherwise it is gone down. -/
theorem expandLine_inclusion {place : Location} {file : File}
    (directive : SourceLine.classify text = .inclusion target)
    (leads : workspace.LeadsTo (location.beside target) place file) :
    workspace.expandLine descend location index draft (text, line) =
      if draft.provenance.contains place.path then
        .ok (draft.addRepeated index line location.path place.path)
      else descend place file draft := by
  obtain ⟨regular, canonical⟩ := leads
  rw [Location.beside] at regular canonical
  simp [expandLine, directive, regular, canonical]

/-- A directive that leads to a file without a canonical path is not followed. -/
theorem expandLine_overlong {place : Location} {file : File}
    (directive : SourceLine.classify text = .inclusion target)
    (leads : workspace.regular? (location.beside target) = some (place, file))
    (overlong : workspace.IsOverlong (location.beside target)) :
    workspace.expandLine descend location index draft (text, line) =
      .error ⟨draft, .unreadable (location.beside target) Fault.nameTooLong.message, none⟩ := by
  rw [IsOverlong, Location.beside] at overlong
  rw [Location.beside] at leads
  simp [expandLine, directive, leads, overlong, Location.beside]

end ExpandLine

/-- Below the nesting limit, a file is expanded if there is room for it and it is text. -/
theorem expand_succ (nesting : Nat) (location : Location) (file : File) (draft : Draft) :
    workspace.expand limits (nesting + 1) location file draft =
      if limits.maxFiles ≤ draft.provenance.size then
        .error ⟨draft, .tooManyIncludes location.path limits.maxFiles, none⟩
      else
        match file.text? with
        | none =>
          .error ⟨draft.openFile location file,
            .unreadable location.path Fault.notUtf8.message, none⟩
        | some text =>
          (numberedLines text).foldlM
            (workspace.expandLine (workspace.expand limits nesting) location
              draft.provenance.size)
            (draft.openFile location file) := rfl

/-- An expansion of lines takes the steps of their course. -/
theorem Unfolds.foldlM_eq {nesting : Nat} {location : Location} {index : Nat}
    {opened : List Location} {remaining : List (String × Nat)} {emissions : List Emission}
    {halt : Option Halt} {draft : Draft}
    (unfolds : workspace.Unfolds limits nesting location index opened remaining emissions halt)
    (isOpened : draft.Opened opened) :
    remaining.foldlM (workspace.expandLine (workspace.expand limits nesting) location index)
      draft = (draft.emitAll emissions).finish halt := by
  induction unfolds generalizing draft with
  | done => rfl
  | code isCode later inductionHypothesis =>
    rw [List.foldlM_cons, expandLine_code isCode]
    exact inductionHypothesis (isOpened.addCode _ _ _)
  | repeated directive leads known later inductionHypothesis =>
    rw [List.foldlM_cons, expandLine_inclusion directive leads,
      if_pos ((isOpened.contains_iff _).2 known)]
    exact inductionHypothesis (isOpened.addRepeated _ _ _ _)
  | @expanded _ _ _ _ _ _ _ _ place file _ _ _ _ directive leads fresh room isText inside later
      insideHypothesis laterHypothesis =>
    have insideEq := insideHypothesis (isOpened.openFile place file)
    rw [List.foldlM_cons, expandLine_inclusion directive leads,
      if_neg (mt (isOpened.contains_iff _).1 fresh), expand_succ,
      if_neg (by rw [isOpened.size_eq]; omega)]
    simp only [isText, isOpened.size_eq, insideEq]
    rw [List.cons_append, Draft.emitAll_cons, Draft.emitAll_append]
    exact laterHypothesis (by simpa using (isOpened.openFile place file).emitAll _)
  | malformed isMalformed =>
    rw [List.foldlM_cons, expandLine_malformed isMalformed]
    rfl
  | missing directive leads =>
    rw [List.foldlM_cons, expandLine_missing directive leads]
    rfl
  | overlong directive leads overlong =>
    rw [List.foldlM_cons, expandLine_overlong directive leads overlong]
    rfl
  | tooDeep directive leads fresh =>
    rw [List.foldlM_cons, expandLine_inclusion directive leads,
      if_neg (mt (isOpened.contains_iff _).1 fresh)]
    rfl
  | tooMany directive leads fresh full =>
    rw [List.foldlM_cons, expandLine_inclusion directive leads,
      if_neg (mt (isOpened.contains_iff _).1 fresh), expand_succ,
      if_pos (by rw [isOpened.size_eq]; exact full)]
    rfl
  | unreadable directive leads fresh room notText =>
    rw [List.foldlM_cons, expandLine_inclusion directive leads,
      if_neg (mt (isOpened.contains_iff _).1 fresh), expand_succ,
      if_neg (by rw [isOpened.size_eq]; omega)]
    simp only [notText]
    rfl
  | @stopped _ _ _ _ _ _ _ _ place file _ _ _ directive leads fresh room isText inside
      insideHypothesis =>
    have insideEq := insideHypothesis (isOpened.openFile place file)
    rw [List.foldlM_cons, expandLine_inclusion directive leads,
      if_neg (mt (isOpened.contains_iff _).1 fresh), expand_succ,
      if_neg (by rw [isOpened.size_eq]; omega)]
    simp only [isText, isOpened.size_eq, insideEq]
    rfl

/-- The provenance of a draft keeps the origins of the lines that were emitted. -/
theorem Unfolds.records {nesting : Nat} {location : Location} {index : Nat}
    {opened : List Location} {remaining : List (String × Nat)} {emissions : List Emission}
    {halt : Option Halt} {draft : Draft} {origins : List Origin}
    (unfolds : workspace.Unfolds limits nesting location index opened remaining emissions halt)
    (isOpened : draft.Opened opened) (inside : index < opened.length)
    (records : draft.provenance.Records origins) :
    (draft.emitAll emissions).provenance.Records
      (origins ++ (Emission.lines emissions).map Prod.fst) := by
  have isContributor : ∀ {draft : Draft} {opened : List Location} {index : Nat},
      draft.Opened opened → index < opened.length →
        index < draft.provenance.contributors.length := by
    intro draft opened index isOpened inside
    have size := isOpened.size_eq
    rw [Provenance.size] at size
    omega
  induction unfolds generalizing draft origins with
  | done => simpa using records
  | @code _ _ index _ text line _ _ _ isCode later inductionHypothesis =>
    have next := records.addOwned line (isContributor isOpened inside)
    have after := inductionHypothesis (isOpened.addCode index line text) inside next
    simpa using after
  | @repeated _ location index _ _ line _ _ place _ _ _ directive leads known later
      inductionHypothesis =>
    have next := records.addPlaceholder line (isContributor isOpened inside)
    have after :=
      inductionHypothesis (isOpened.addRepeated index line location place) inside next
    simpa using after
  | @expanded _ _ _ _ _ _ _ _ place file _ inner _ _ directive leads fresh room isText unfolds later
      insideHypothesis laterHypothesis =>
    have openedHere := isOpened.openFile place file
    have middle := insideHypothesis openedHere (by simp)
      (records.addContributor place.path (some file.modified))
    have after := laterHypothesis (by simpa using openedHere.emitAll inner)
      (by rw [List.length_append]; omega) middle
    rw [List.cons_append, Draft.emitAll_cons, Draft.emitAll_append]
    simpa using after
  | malformed | missing | overlong | tooDeep | tooMany => simpa using records
  | @unreadable _ _ _ _ _ _ _ _ place file =>
    have next := records.addContributor place.path (some file.modified)
    simpa [Draft.openFile] using next
  | @stopped _ _ _ _ _ _ _ _ place file _ _ _ directive leads fresh room isText unfolds
      insideHypothesis =>
    exact insideHypothesis (isOpened.openFile place file) (by simp)
      (records.addContributor place.path (some file.modified))

end Workspace

end LiveShader
