import LiveShader.Proofs.Resolution.Halting

/-!
# What a resolution enters

Whenever `expand` is called, it enters a file: with the draft at that moment, and below so many
files that are not finished. The entrances of a resolution are these calls in their order. None
of them is at a location of an earlier one (`Unfolds.accounted`): the files that were not
entered yet become fewer with every call, also while the loops over the lines of all files
above are pending. So there are no more entrances than regular files, whatever the limits.

That entrances are where `expand` is called is said by `expandLine_of_wanted` and
`expandLine_of_unwanted`.
-/

namespace LiveShader

/-- A call of `expand`, with its depth below the call for the entry file. -/
structure Entrance where
  location : Location
  file : File
  depth : Nat
  draft : Draft

/-- The path that was missing, if that is why a resolution failed. -/
def ResolutionError.missing? : ResolutionError → Option Path
  | .missingFile path _ => some path
  | _ => none

namespace Workspace

variable (workspace : Workspace)

/-- The file that a line asks to expand: it is included under its canonical path, and does not
contribute yet. -/
def wanted? (location : Location) (draft : Draft) (text : String) : Option (Location × File) :=
  match SourceLine.classify text with
  | .inclusion target =>
    match workspace.named? (location.beside target) with
    | some (place, file) =>
      if draft.provenance.contains place.path then none else some (place, file)
    | none => none
  | _ => none

/-- The entrances while lines of a contributor are expanded. `enter` gives those of a file that
a line asks for. -/
def lineEntrances (descend : Location → File → Draft → Except Abort Draft)
    (enter : Location → File → Draft → List Entrance) (location : Location) (index : Nat) :
    List (String × Nat) → Draft → List Entrance
  | [], _ => []
  | numbered :: rest, draft =>
    let here :=
      match workspace.wanted? location draft numbered.1 with
      | some (place, file) => enter place file draft
      | none => []
    match workspace.expandLine descend location index draft numbered with
    | .ok next => here ++ lineEntrances descend enter location index rest next
    | .error _ => here

/-- The entrances of a call of `expand`, itself first. It may nest so many levels, and is
itself so deep. -/
def entrances (limits : ResolutionLimits) :
    Nat → Nat → Location → File → Draft → List Entrance
  | 0, depth, location, file, draft => [⟨location, file, depth, draft⟩]
  | nesting + 1, depth, location, file, draft =>
    ⟨location, file, depth, draft⟩ ::
      if limits.maxFiles ≤ draft.provenance.size then []
      else
        match file.text? with
        | none => []
        | some text =>
          workspace.lineEntrances (workspace.expand limits nesting)
            (entrances limits nesting (depth + 1)) location draft.provenance.size
            (numberedLines text) (draft.openFile location file)

/-- The entrances of a resolution. -/
def entryEntrances (entry : Path) (limits : ResolutionLimits) : List Entrance :=
  match workspace.named? entry with
  | none => []
  | some (location, file) =>
    workspace.entrances limits (limits.maxDepth + 1) 0 location file
      (Draft.empty (Location.path location.dropLast))

/-- The paths that are recorded when a resolution ends, however it ends. -/
def recorded (entry : Path) (limits : ResolutionLimits) : List Path :=
  match workspace.named? entry with
  | none => []
  | some (location, file) =>
    match workspace.expandEntry limits location file with
    | .ok draft => draft.paths
    | .error abort => abort.draft.paths

/-- How many regular files do not contribute yet when a file is entered. -/
def unseen (entrance : Entrance) : Nat :=
  (workspace.tree.files.toFinset.filter fun place =>
    entrance.draft.provenance.contains place.path = false).card

/-- No limit is needed for a resolution to end: each call is at a regular file that was not
expanded before, so there are fewer of them left at each call, and they bound the calls and
their depth. -/
structure IsBounded (entry : Path) (limits : ResolutionLimits) : Prop where
  fresh : ∀ entrance ∈ workspace.entryEntrances entry limits,
    entrance.draft.provenance.contains entrance.location.path = false
  regular : ∀ entrance ∈ workspace.entryEntrances entry limits,
    workspace.tree.file? entrance.location = some entrance.file
  distinct : ((workspace.entryEntrances entry limits).map Entrance.location).Nodup
  shrinking : ((workspace.entryEntrances entry limits).map workspace.unseen).Pairwise (· > ·)
  few : (workspace.entryEntrances entry limits).length ≤ workspace.tree.files.toFinset.card
  shallow : ∀ entrance ∈ workspace.entryEntrances entry limits,
    entrance.depth + 1 ≤ workspace.tree.files.toFinset.card
  recorded_distinct : (workspace.recorded entry limits).Pairwise fun first second =>
    ¬ first.Same second
  recorded_few : (workspace.recorded entry limits).length ≤ limits.maxFiles
  recorded_entered : workspace.recorded entry limits <+:
    ((workspace.entryEntrances entry limits).map Entrance.location).map Location.path
  succeeded : ∀ resolution, workspace.resolve entry limits = .ok resolution →
    resolution.provenance.contributors.map Contributor.path = workspace.recorded entry limits
  failed : ∀ failure, workspace.resolve entry limits = .error failure →
    failure.stamps.map Stamp.path =
        workspace.recorded entry limits ++ failure.error.missing?.toList ∨
      workspace.IsOverlong entry ∧ workspace.recorded entry limits = [] ∧
        failure.stamps.map Stamp.path = [entry]

variable {workspace} {limits : ResolutionLimits}

/-! ## Which lines enter a file -/

section Line

variable {descend : Location → File → Draft → Except Abort Draft}
  {enter : Location → File → Draft → List Entrance} {location place : Location} {file : File}
  {index line : Nat} {draft next : Draft} {abort : Abort} {text target : String}
  {rest : List (String × Nat)}

/-- A directive asks for the file that it leads to, if that does not contribute yet. -/
theorem wanted?_inclusion (directive : SourceLine.classify text = .inclusion target)
    (leads : workspace.LeadsTo (location.beside target) place file) :
    workspace.wanted? location draft text =
      if draft.provenance.contains place.path then none else some (place, file) := by
  simp only [wanted?, directive, leads.named?_eq]

/-- A line of code asks for no file. -/
theorem wanted?_code (isCode : SourceLine.classify text = .code) :
    workspace.wanted? location draft text = none := by
  simp [wanted?, isCode]

/-- A malformed directive asks for no file. -/
theorem wanted?_malformed (isMalformed : SourceLine.classify text = .malformed) :
    workspace.wanted? location draft text = none := by
  simp [wanted?, isMalformed]

/-- A directive that names no file by its canonical path asks for none. -/
theorem wanted?_unnamed (directive : SourceLine.classify text = .inclusion target)
    (unnamed : workspace.named? (location.beside target) = none) :
    workspace.wanted? location draft text = none := by
  simp [wanted?, directive, unnamed]

/-- A line that asks for a file is what the expansion of the file makes of it. -/
theorem expandLine_of_wanted
    (wanted : workspace.wanted? location draft text = some (place, file)) :
    workspace.expandLine descend location index draft (text, line) = descend place file draft := by
  cases kind : SourceLine.classify text with
  | code => simp [wanted?_code kind] at wanted
  | malformed => simp [wanted?_malformed kind] at wanted
  | inclusion target =>
    rcases workspace.leads_cases (location.beside target) with
      leads | ⟨_, _, -, overlong⟩ | ⟨other, found, leads⟩
    · simp [wanted?_unnamed kind (named?_of_missing leads)] at wanted
    · simp [wanted?_unnamed kind (named?_of_overlong overlong)] at wanted
    · rw [wanted?_inclusion kind leads] at wanted
      rw [expandLine_inclusion kind leads]
      split at wanted
      · cases wanted
      · rename_i unknown
        cases wanted
        exact if_neg unknown

/-- A line that asks for no file calls no expansion. -/
theorem expandLine_of_unwanted (other : Location → File → Draft → Except Abort Draft)
    (unwanted : workspace.wanted? location draft text = none) :
    workspace.expandLine descend location index draft (text, line) =
      workspace.expandLine other location index draft (text, line) := by
  cases kind : SourceLine.classify text with
  | code => rw [expandLine_code kind, expandLine_code kind]
  | malformed => rw [expandLine_malformed kind, expandLine_malformed kind]
  | inclusion target =>
    rcases workspace.leads_cases (location.beside target) with
      leads | ⟨_, _, leads, overlong⟩ | ⟨_, _, leads⟩
    · rw [expandLine_missing kind leads, expandLine_missing kind leads]
    · rw [expandLine_overlong kind leads overlong, expandLine_overlong kind leads overlong]
    · rw [wanted?_inclusion kind leads] at unwanted
      rw [expandLine_inclusion kind leads, expandLine_inclusion kind leads]
      split at unwanted
      · rename_i known
        rw [if_pos known, if_pos known]
      · cases unwanted

/-- A directive asks for a file that was not opened before. -/
theorem wanted?_fresh (directive : SourceLine.classify text = .inclusion target)
    (leads : workspace.LeadsTo (location.beside target) place file)
    {opened : List Location} (isOpened : draft.Opened opened) (fresh : place ∉ opened) :
    workspace.wanted? location draft text = some (place, file) :=
  (wanted?_inclusion directive leads).trans (if_neg (mt (isOpened.contains_iff place).1 fresh))

/-- Nothing is entered at a line that asks for no file. -/
theorem lineEntrances_unwanted (unwanted : workspace.wanted? location draft text = none)
    (line_eq : workspace.expandLine descend location index draft (text, line) = .ok next) :
    workspace.lineEntrances descend enter location index ((text, line) :: rest) draft =
      workspace.lineEntrances descend enter location index rest next := by
  simp [lineEntrances, unwanted, line_eq]

/-- Nothing is entered behind a line that stops the expansion. -/
theorem lineEntrances_stopped (unwanted : workspace.wanted? location draft text = none)
    (line_eq : workspace.expandLine descend location index draft (text, line) = .error abort) :
    workspace.lineEntrances descend enter location index ((text, line) :: rest) draft = [] := by
  simp [lineEntrances, unwanted, line_eq]

/-- Behind a file that is expanded, the entrances go on. -/
theorem lineEntrances_wanted
    (wanted : workspace.wanted? location draft text = some (place, file))
    (inside : descend place file draft = .ok next) :
    workspace.lineEntrances descend enter location index ((text, line) :: rest) draft =
      enter place file draft ++
        workspace.lineEntrances descend enter location index rest next := by
  simp [lineEntrances, wanted, expandLine_of_wanted wanted, inside]

/-- The entrances below a file at which an expansion stops are the last. -/
theorem lineEntrances_wanted_stopped
    (wanted : workspace.wanted? location draft text = some (place, file))
    (inside : descend place file draft = .error abort) :
    workspace.lineEntrances descend enter location index ((text, line) :: rest) draft =
      enter place file draft := by
  simp [lineEntrances, wanted, expandLine_of_wanted wanted, inside]

end Line

section Call

variable {nesting depth : Nat} {location : Location} {file : File} {draft : Draft} {source : String}

/-- No file is expanded where the limits are used up. -/
theorem expand_full (full : limits.maxFiles ≤ draft.provenance.size) :
    workspace.expand limits (nesting + 1) location file draft =
      .error ⟨draft, .tooManyIncludes location.path limits.maxFiles, none⟩ := by
  rw [expand_succ, if_pos full]

/-- A file that is no text is opened before it is refused. -/
theorem expand_unreadable (room : draft.provenance.size < limits.maxFiles)
    (notText : file.text? = none) :
    workspace.expand limits (nesting + 1) location file draft =
      .error ⟨draft.openFile location file,
        .unreadable location.path Fault.notUtf8.message, none⟩ := by
  rw [expand_succ, if_neg (Nat.not_le_of_lt room)]
  simp only [notText]

/-- A file that is a text is opened, and expanded line by line. -/
theorem expand_lines (room : draft.provenance.size < limits.maxFiles)
    (isText : file.text? = some source) :
    workspace.expand limits (nesting + 1) location file draft =
      (numberedLines source).foldlM
        (workspace.expandLine (workspace.expand limits nesting) location draft.provenance.size)
        (draft.openFile location file) := by
  rw [expand_succ, if_neg (Nat.not_le_of_lt room)]
  simp only [isText]

/-- A file is entered before the limits refuse it. -/
theorem entrances_full (full : limits.maxFiles ≤ draft.provenance.size) :
    workspace.entrances limits (nesting + 1) depth location file draft =
      [⟨location, file, depth, draft⟩] := by
  rw [entrances, if_pos full]

/-- A file is entered before it is refused for what it holds. -/
theorem entrances_unreadable (notText : file.text? = none) :
    workspace.entrances limits (nesting + 1) depth location file draft =
      [⟨location, file, depth, draft⟩] := by
  simp [entrances, notText]

/-- A file is entered before its lines are, each of them one level deeper. -/
theorem entrances_lines (room : draft.provenance.size < limits.maxFiles)
    (isText : file.text? = some source) :
    workspace.entrances limits (nesting + 1) depth location file draft =
      ⟨location, file, depth, draft⟩ ::
        workspace.lineEntrances (workspace.expand limits nesting)
          (workspace.entrances limits nesting (depth + 1)) location draft.provenance.size
          (numberedLines source) (draft.openFile location file) := by
  rw [entrances, if_neg (Nat.not_le_of_lt room)]
  simp only [isText]

end Call

/-! ## Entrances come in turn -/

/-- Each entrance is at a regular file that is not recorded yet, and its draft has recorded
the files of those before it, `opened` in front. -/
inductive InTurn (workspace : Workspace) : List Location → List Entrance → Prop where
  | done {opened} : InTurn workspace opened []
  | enter {opened entrance rest} (isOpened : entrance.draft.Opened opened)
      (fresh : entrance.location ∉ opened)
      (present : workspace.tree.file? entrance.location = some entrance.file)
      (shallow : entrance.depth ≤ opened.length)
      (later : InTurn workspace (opened ++ [entrance.location]) rest) :
      InTurn workspace opened (entrance :: rest)

namespace InTurn

variable {opened : List Location} {made more : List Entrance}

/-- Entrances are in turn where the second ones begin behind the files of the first ones. -/
theorem append (first : workspace.InTurn opened made)
    (second : workspace.InTurn (opened ++ made.map Entrance.location) more) :
    workspace.InTurn opened (made ++ more) := by
  induction first with
  | done => simpa using second
  | enter isOpened fresh present shallow later inductionHypothesis =>
    exact .enter isOpened fresh present shallow (inductionHypothesis (by simpa using second))

/-- A file is entered once only. -/
theorem nodup (inTurn : workspace.InTurn opened made) (nodup : opened.Nodup) :
    (opened ++ made.map Entrance.location).Nodup := by
  induction inTurn with
  | done => simpa using nodup
  | enter isOpened fresh present shallow later inductionHypothesis =>
    simpa using inductionHypothesis (nodup_concat nodup fresh)

/-- Each entrance is made into a regular file of the tree. -/
theorem present (inTurn : workspace.InTurn opened made) :
    ∀ entrance ∈ made, workspace.tree.file? entrance.location = some entrance.file := by
  induction inTurn with
  | done => exact List.forall_mem_nil _
  | enter isOpened fresh present shallow later inductionHypothesis =>
    exact List.forall_mem_cons.2 ⟨present, inductionHypothesis⟩

/-- A file is entered before its draft knows it. -/
theorem fresh (inTurn : workspace.InTurn opened made) :
    ∀ entrance ∈ made, entrance.draft.provenance.contains entrance.location.path = false := by
  induction inTurn with
  | done => exact List.forall_mem_nil _
  | enter isOpened fresh present shallow later inductionHypothesis =>
    refine List.forall_mem_cons.2 ⟨?_, inductionHypothesis⟩
    exact Bool.eq_false_iff.2 (mt (isOpened.contains_iff _).1 fresh)

/-- What was opened before stays recorded. -/
theorem exists_opened (inTurn : workspace.InTurn opened made) :
    ∀ entrance ∈ made, ∃ more, entrance.draft.Opened (opened ++ more) := by
  induction inTurn with
  | done => exact List.forall_mem_nil _
  | enter isOpened fresh present shallow later inductionHypothesis =>
    refine List.forall_mem_cons.2 ⟨⟨[], by simpa using isOpened⟩, fun entrance member => ?_⟩
    obtain ⟨more, isOpenedLater⟩ := inductionHypothesis entrance member
    exact ⟨_ :: more, by simpa using isOpenedLater⟩

/-- At each entrance fewer files are left than at those before it. -/
theorem shrinking (inTurn : workspace.InTurn opened made) :
    (made.map workspace.unseen).Pairwise (· > ·) := by
  rw [List.pairwise_map]
  induction inTurn with
  | done => exact .nil
  | @enter opened entrance rest isOpened fresh present shallow later inductionHypothesis =>
    refine List.pairwise_cons.2 ⟨fun other member => ?_, inductionHypothesis⟩
    obtain ⟨more, isOpenedLater⟩ := later.exists_opened other member
    have isNew : ∀ place, other.draft.provenance.contains place.path = false ↔
        place ∉ opened ++ [entrance.location] ++ more := fun place => by
      rw [← isOpenedLater.contains_iff, Bool.not_eq_true]
    have wasNew : ∀ place, entrance.draft.provenance.contains place.path = false ↔
        place ∉ opened := fun place => by
      rw [← isOpened.contains_iff, Bool.not_eq_true]
    -- All files that are left then were left before, and the one that is entered was as well.
    refine Finset.card_lt_card ((Finset.ssubset_iff_of_subset fun place left => ?_).2
      ⟨entrance.location, ?_, ?_⟩)
    · obtain ⟨isFile, unseen⟩ := Finset.mem_filter.1 left
      refine Finset.mem_filter.2 ⟨isFile, (wasNew place).2 fun known => (isNew place).1 unseen ?_⟩
      exact List.mem_append_left _ (List.mem_append_left _ known)
    · refine Finset.mem_filter.2 ⟨?_, (wasNew _).2 fresh⟩
      rw [List.mem_toFinset, FileTree.mem_files_iff, present]
      rfl
    · intro left
      exact (isNew _).1 (Finset.mem_filter.1 left).2 (by simp)

/-- No entrance is deeper than files were opened before it. -/
theorem depth_lt (inTurn : workspace.InTurn opened made) :
    ∀ entrance ∈ made, entrance.depth < opened.length + made.length := by
  induction inTurn with
  | done => exact List.forall_mem_nil _
  | enter isOpened fresh present shallow later inductionHypothesis =>
    refine List.forall_mem_cons.2 ⟨by rw [List.length_cons]; omega, fun entrance member => ?_⟩
    have less := inductionHypothesis entrance member
    rw [List.length_append, List.length_singleton] at less
    rw [List.length_cons]
    omega

end InTurn

/-- The entrances of an expansion come in turn, and are at the files that it opens. Where it
stops, there may be one more, at a file that the limits refuse. -/
structure Accounted (workspace : Workspace) (opened : List Location) (made : List Entrance)
    (expanded : List Location) (halt : Option Halt) : Prop where
  inTurn : workspace.InTurn opened made
  locations : ∃ refused, made.map Entrance.location = expanded ++ refused ∧
    (halt = none → refused = [])

namespace Accounted

variable {opened expanded expandedLater : List Location} {made madeLater : List Entrance}
  {halt : Option Halt} {place : Location} {file : File} {depth : Nat} {draft : Draft}

/-- An expansion that enters no file accounts for none. -/
theorem nil : workspace.Accounted opened [] [] halt :=
  ⟨.done, [], rfl, fun _ => rfl⟩

/-- What two expansions entered one after the other is accounted for by both. -/
theorem append (first : workspace.Accounted opened made expanded none)
    (second : workspace.Accounted (opened ++ expanded) madeLater expandedLater halt) :
    workspace.Accounted opened (made ++ madeLater) (expanded ++ expandedLater) halt := by
  obtain ⟨refused, made_eq, finished⟩ := first.locations
  obtain rfl := finished rfl
  rw [List.append_nil] at made_eq
  obtain ⟨refused, later_eq, finished⟩ := second.locations
  exact ⟨first.inTurn.append (made_eq ▸ second.inTurn), refused, by simp [made_eq, later_eq],
    finished⟩

/-- The limits refuse a file. -/
theorem refused {stop : Halt} (isOpened : draft.Opened opened) (fresh : place ∉ opened)
    (present : workspace.tree.file? place = some file) (shallow : depth ≤ opened.length) :
    workspace.Accounted opened [⟨place, file, depth, draft⟩] [] (some stop) :=
  ⟨.enter isOpened fresh present shallow .done, [place], rfl, fun never => by cases never⟩

/-- A file is opened, and entrances below it follow. -/
theorem enter (isOpened : draft.Opened opened) (fresh : place ∉ opened)
    (present : workspace.tree.file? place = some file) (shallow : depth ≤ opened.length)
    (inside : workspace.Accounted (opened ++ [place]) made expanded halt) :
    workspace.Accounted opened (⟨place, file, depth, draft⟩ :: made) (place :: expanded) halt := by
  obtain ⟨refused, made_eq, finished⟩ := inside.locations
  exact ⟨.enter isOpened fresh present shallow inside.inTurn, refused, by simp [made_eq], finished⟩

end Accounted

/-- The expansion of a file that is opened takes the course of its lines. -/
theorem Unfolds.expand_eq {nesting : Nat} {place : Location} {file : File} {source : String}
    {opened : List Location} {inner : List Emission} {halt : Option Halt} {draft : Draft}
    (inside : workspace.Unfolds limits nesting place opened.length (opened ++ [place])
      (numberedLines source) inner halt)
    (isOpened : draft.Opened opened) (room : opened.length < limits.maxFiles)
    (isText : file.text? = some source) :
    workspace.expand limits (nesting + 1) place file draft =
      ((draft.openFile place file).emitAll inner).finish halt := by
  rw [expand_lines (isOpened.size_eq ▸ room) isText, isOpened.size_eq]
  exact inside.foldlM_eq (isOpened.openFile place file)

/-- The entrances of an expansion of lines are accounted for. `depth` is that of their file. -/
theorem Unfolds.accounted {nesting : Nat} {location : Location} {index : Nat}
    {opened : List Location} {remaining : List (String × Nat)} {emissions : List Emission}
    {halt : Option Halt} {depth : Nat} {draft : Draft}
    (unfolds : workspace.Unfolds limits nesting location index opened remaining emissions halt)
    (isOpened : draft.Opened opened) (below : depth + 1 ≤ opened.length) :
    workspace.Accounted opened
      (workspace.lineEntrances (workspace.expand limits nesting)
        (workspace.entrances limits nesting (depth + 1)) location index remaining draft)
      (Emission.locations emissions) halt := by
  induction unfolds generalizing depth draft with
  | done => exact .nil
  | code isCode later inductionHypothesis =>
    rw [lineEntrances_unwanted (wanted?_code isCode) (expandLine_code isCode)]
    exact inductionHypothesis (isOpened.addCode _ _ _) below
  | repeated directive leads known later inductionHypothesis =>
    have contained := (isOpened.contains_iff _).2 known
    rw [lineEntrances_unwanted ((wanted?_inclusion directive leads).trans (if_pos contained))
      ((expandLine_inclusion directive leads).trans (if_pos contained))]
    exact inductionHypothesis (isOpened.addRepeated _ _ _ _) below
  | @expanded _ _ _ _ _ _ _ _ place file _ _ _ _ directive leads fresh room isText inside later
      insideHypothesis laterHypothesis =>
    have openedHere := isOpened.openFile place file
    rw [lineEntrances_wanted (wanted?_fresh directive leads isOpened fresh)
      (inside.expand_eq isOpened room isText),
      entrances_lines (isOpened.size_eq ▸ room) isText, isOpened.size_eq]
    simp only [List.cons_append, Emission.locations_opened, Emission.locations_append]
    -- The calls inside and those behind share one measure: what is opened inside is known behind.
    have insideAccounted := @insideHypothesis (depth + 1) _ openedHere (by simpa using below)
    have laterAccounted := laterHypothesis (by simpa using openedHere.emitAll _)
      (below.trans (by simp))
    exact .enter isOpened fresh leads.present below
      (insideAccounted.append (by simpa using laterAccounted))
  | malformed isMalformed =>
    rw [lineEntrances_stopped (wanted?_malformed isMalformed) (expandLine_malformed isMalformed)]
    exact .nil
  | missing directive leads =>
    rw [lineEntrances_stopped (wanted?_unnamed directive (named?_of_missing leads))
      (expandLine_missing directive leads)]
    exact .nil
  | overlong directive leads overlong =>
    rw [lineEntrances_stopped (wanted?_unnamed directive (named?_of_overlong overlong))
      (expandLine_overlong directive leads overlong)]
    exact .nil
  | tooDeep directive leads fresh =>
    rw [lineEntrances_wanted_stopped (wanted?_fresh directive leads isOpened fresh) rfl]
    exact .refused isOpened fresh leads.present below
  | tooMany directive leads fresh full =>
    have isFull := isOpened.size_eq ▸ full
    rw [lineEntrances_wanted_stopped (wanted?_fresh directive leads isOpened fresh)
      (expand_full isFull), entrances_full isFull]
    exact .refused isOpened fresh leads.present below
  | unreadable directive leads fresh room notText =>
    rw [lineEntrances_wanted_stopped (wanted?_fresh directive leads isOpened fresh)
      (expand_unreadable (isOpened.size_eq ▸ room) notText), entrances_unreadable notText]
    exact .enter isOpened fresh leads.present below .nil
  | @stopped _ _ _ _ _ _ _ _ place file _ _ _ directive leads fresh room isText inside
      insideHypothesis =>
    have openedHere := isOpened.openFile place file
    rw [lineEntrances_wanted_stopped (wanted?_fresh directive leads isOpened fresh)
      (inside.expand_eq isOpened room isText),
      entrances_lines (isOpened.size_eq ▸ room) isText, isOpened.size_eq]
    exact .enter isOpened fresh leads.present below
      (@insideHypothesis (depth + 1) _ openedHere (by simpa using below))

/-! ## The entrances of a resolution -/

section Entry

variable {entry : Path} {location : Location} {file : File} {emissions : List Emission}
  {halt : Option Halt}

/-- The entrances of the expansion of an entry file are accounted for. -/
theorem Expands.accounted
    (expands : workspace.Expands limits location file emissions halt)
    (leads : workspace.LeadsTo entry location file) :
    workspace.Accounted [] (workspace.entryEntrances entry limits) (Emission.locations emissions)
      halt := by
  have present := leads.present
  have isOpened := Draft.opened_empty (Location.path location.dropLast)
  have fresh : location ∉ ([] : List Location) := List.not_mem_nil
  have size_eq := isOpened.size_eq
  simp only [entryEntrances, leads.named?_eq]
  cases expands with
  | tooMany full =>
    rw [entrances_full (by omega)]
    exact .refused isOpened fresh present (Nat.zero_le _)
  | unreadable room notText =>
    rw [entrances_unreadable notText]
    exact .enter isOpened fresh present (Nat.zero_le _) .nil
  | lines room isText unfolds =>
    rw [entrances_lines (size_eq ▸ room) isText, size_eq]
    exact .enter isOpened fresh present (Nat.zero_le _)
      (unfolds.accounted (isOpened.openFile location file) (Nat.le_refl _))

/-- The files recorded in the end are those that were opened. -/
theorem Expands.recorded_eq
    (expands : workspace.Expands limits location file emissions halt)
    (leads : workspace.LeadsTo entry location file) :
    workspace.recorded entry limits = (Emission.locations emissions).map Location.path := by
  have paths_eq : (entryDraft location emissions).paths =
      (Emission.locations emissions).map Location.path := Draft.paths_emitAll _ emissions
  simp only [recorded, leads.named?_eq, expands.expandEntry_eq]
  cases halt <;> exact paths_eq

/-- The expansion of an entry file opens no more files than the limits allow. -/
theorem Expands.length_le (expands : workspace.Expands limits location file emissions halt) :
    (Emission.locations emissions).length ≤ limits.maxFiles := by
  cases expands with
  | tooMany full => exact Nat.zero_le _
  | unreadable room notText => exact room
  | lines room isText unfolds => exact unfolds.length_le room

/-- An expansion that stops has the stamp of the path that it says is missing. -/
theorem Unfolds.missing_eq {nesting index : Nat} {opened : List Location}
    {remaining : List (String × Nat)}
    (unfolds : workspace.Unfolds limits nesting location index opened remaining emissions halt) :
    ∀ stop ∈ halt, stop.missing = stop.error.missing?.map workspace.stamp := by
  induction unfolds with
  | done => exact fun stop never => by cases never
  | code _ _ inductionHypothesis => exact inductionHypothesis
  | repeated _ _ _ _ inductionHypothesis => exact inductionHypothesis
  | expanded _ _ _ _ _ _ _ _ laterHypothesis => exact laterHypothesis
  | malformed | missing | overlong | tooDeep | tooMany | unreadable => rintro stop ⟨⟩; rfl
  | stopped _ _ _ _ _ _ insideHypothesis => exact insideHypothesis

/-- What is missing where an expansion stops is the file that its error names. -/
theorem Expands.missing_eq (expands : workspace.Expands limits location file emissions halt) :
    ∀ stop ∈ halt, stop.missing = stop.error.missing?.map workspace.stamp := by
  cases expands with
  | tooMany | unreadable => rintro stop ⟨⟩; rfl
  | lines room isText unfolds => exact unfolds.missing_eq

/-- Without an entry file that is named nothing is entered, and nothing is recorded. -/
theorem exists_accounted_unnamed (unnamed : workspace.named? entry = none) :
    ∃ opened halt, workspace.Accounted [] (workspace.entryEntrances entry limits) opened halt ∧
      workspace.recorded entry limits = opened.map Location.path ∧
      opened.length ≤ limits.maxFiles := by
  have unentered : workspace.entryEntrances entry limits = [] := by simp [entryEntrances, unnamed]
  have unrecorded : workspace.recorded entry limits = [] := by simp [recorded, unnamed]
  exact ⟨[], none, unentered ▸ .nil, unrecorded, Nat.zero_le _⟩

/-- However a resolution ends, its entrances are accounted for. -/
theorem exists_accounted (workspace : Workspace) (entry : Path) (limits : ResolutionLimits) :
    ∃ opened halt, workspace.Accounted [] (workspace.entryEntrances entry limits) opened halt ∧
      workspace.recorded entry limits = opened.map Location.path ∧
      opened.length ≤ limits.maxFiles := by
  rcases workspace.leads_cases entry with leads | ⟨_, _, -, overlong⟩ | ⟨location, file, leads⟩
  · exact exists_accounted_unnamed (named?_of_missing leads)
  · exact exists_accounted_unnamed (named?_of_overlong overlong)
  · obtain ⟨emissions, halt, expands⟩ := exists_expands workspace limits location file
    exact ⟨_, halt, expands.accounted leads, expands.recorded_eq leads, expands.length_le⟩

/-- The files of a resolution that succeeded are those that were recorded. -/
theorem contributors_eq_recorded {resolution : Resolution}
    (resolved : workspace.resolve entry limits = .ok resolution) :
    resolution.provenance.contributors.map Contributor.path = workspace.recorded entry limits := by
  obtain ⟨course⟩ := resolve_ok_iff.1 resolved
  have expands := Expands.lines course.room course.isText course.unfolds
  rw [course.paths_eq, expands.recorded_eq course.leads]
  rfl

/-- The stamps of a resolution that failed are those of the files that were recorded, and of the
path that was missing. If the path of the entry is too long, nothing is recorded, and the entry
has the stamp. -/
theorem stamps_eq_recorded {failure : FailedResolution}
    (failed : workspace.resolve entry limits = .error failure) :
    failure.stamps.map Stamp.path =
        workspace.recorded entry limits ++ failure.error.missing?.toList ∨
      workspace.IsOverlong entry ∧ workspace.recorded entry limits = [] ∧
        failure.stamps.map Stamp.path = [entry] := by
  rcases workspace.leads_cases entry with
    leads | ⟨_, _, leads, overlong⟩ | ⟨location, file, leads⟩
  · rw [resolve_of_missing leads] at failed
    cases failed
    exact .inl (by simp [recorded, named?_of_missing leads, ResolutionError.missing?, stamp])
  · rw [resolve_of_overlong leads overlong] at failed
    cases failed
    exact .inr ⟨overlong, by simp [recorded, named?_of_overlong overlong], rfl⟩
  · obtain ⟨emissions, halt, expands⟩ := exists_expands workspace limits location file
    rw [expands.resolve_eq leads] at failed
    cases halt with
    | none => cases failed
    | some stop =>
      cases failed
      have paths_eq : (entryDraft location emissions).paths =
          (Emission.locations emissions).map Location.path := Draft.paths_emitAll _ emissions
      have missing_eq : stop.missing.toList.map Stamp.path = stop.error.missing?.toList := by
        rw [expands.missing_eq stop rfl]
        cases stop.error.missing? <;> rfl
      left
      rw [List.map_append, expands.recorded_eq leads, missing_eq, ← paths_eq, Draft.paths,
        Provenance.stamps, List.map_map]
      rfl

end Entry

/-- However often the files of a tree include each other, whatever the limits are, and however it
ends, a resolution expands each file at most once. -/
theorem isBounded (workspace : Workspace) (entry : Path) (limits : ResolutionLimits) :
    workspace.IsBounded entry limits := by
  obtain ⟨opened, halt, accounted, recorded_eq, many⟩ := exists_accounted workspace entry limits
  obtain ⟨refused, locations_eq, -⟩ := accounted.locations
  have distinct : ((workspace.entryEntrances entry limits).map Entrance.location).Nodup :=
    accounted.inTurn.nodup List.nodup_nil
  have regular := accounted.inTurn.present
  have few : (workspace.entryEntrances entry limits).length ≤
      workspace.tree.files.toFinset.card := by
    rw [← List.length_map Entrance.location, ← List.toFinset_card_of_nodup distinct]
    refine Finset.card_le_card fun place entered => ?_
    obtain ⟨entrance, member, rfl⟩ := List.mem_map.1 (List.mem_toFinset.1 entered)
    rw [List.mem_toFinset, FileTree.mem_files_iff, regular entrance member]
    rfl
  have openedOnce : opened.Nodup := (locations_eq ▸ distinct).of_append_left
  exact {
    fresh := accounted.inTurn.fresh
    regular
    distinct
    shrinking := accounted.inTurn.shrinking
    few
    shallow := fun entrance member => by
      have less := accounted.inTurn.depth_lt entrance member
      rw [List.length_nil] at less
      omega
    recorded_distinct := by
      rw [recorded_eq, List.pairwise_map]
      exact openedOnce.imp fun different same => different (Location.same_path_iff.1 same)
    recorded_few := by
      rw [recorded_eq, List.length_map]
      exact many
    recorded_entered := by
      rw [recorded_eq, locations_eq, List.map_append]
      exact List.prefix_append _ _
    succeeded := fun resolution => contributors_eq_recorded
    failed := fun failure => stamps_eq_recorded }

/-- The largest limits do not lead round the cycle of `top` and `d/low`. -/
example : (entangled.entryEntrances ⟨"top"⟩ ⟨2 ^ 64 - 1, 2 ^ 64 - 1⟩).map
    (fun entrance => (entrance.location, entrance.depth)) =
      [(Entangled.top, 0), (Entangled.low, 1), (Entangled.void, 2)] := by
  decide +kernel

end Workspace

end LiveShader
