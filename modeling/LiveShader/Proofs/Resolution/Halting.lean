import LiveShader.Proofs.Resolution.Closure
import LiveShader.Proofs.Resolution.Coverage
import LiveShader.Proofs.Resolution.Freshness
import LiveShader.Proofs.Resolution.IncludeGraph
import LiveShader.Proofs.Resolution.Tour

/-!
# Failures tell the truth

An expansion that stops blames a line or a file, and what it says of it is so
(`Unfolds.truthful`): the line is reached over lines that are in order, the file is no text, the
path of a directive is too long to have a canonical one, or the limits are used up by the files
that were opened. Those are the files that come on the tour before the line at which the
expansion stopped, and they are left as stamps, with the path that was missing behind them.
-/

namespace LiveShader

namespace Workspace

variable (workspace : Workspace)

/-- The stamp of the file at a location. -/
def stampAt (place : Location) : Stamp :=
  ⟨place.path, (workspace.tree.file? place).map File.modified⟩

/-- The tour from a file to a line of it, or of a file that a line of it leads to. -/
inductive Visits : List Location → Location → List Location → Location → Nat → Prop where
  | here {seen location earlier later tour}
      (lines : workspace.sourceLines location.path = earlier ++ later)
      (tours : workspace.Tours seen (earlier.filterMap (workspace.target? location)) tour) :
      Visits seen location tour location (earlier.length + 1)
  | inside {seen location earlier text later tour place visited target line}
      (lines : workspace.sourceLines location.path = earlier ++ text :: later)
      (tours : workspace.Tours seen (earlier.filterMap (workspace.target? location)) tour)
      (leads : workspace.target? location text = some place) (fresh : place ∉ seen ++ tour)
      (visits : Visits (seen ++ tour ++ [place]) place visited target line) :
      Visits seen location (tour ++ place :: visited) target line

/-- A line stops no expansion by itself: it is code, or it leads to a regular file. -/
def Passes (location : Location) (text : String) : Prop :=
  SourceLine.classify text = .code ∨
    ∃ target, SourceLine.classify text = .inclusion target ∧
      (workspace.regular? (location.beside target)).isSome

/-- A line of a file, behind lines that stop no expansion. -/
structure Reaches (location : Location) (line : Nat) (text : String) : Prop where
  isLine : workspace.sourceLine? location.path line = some text
  passes : ∀ earlier other, earlier < line →
    workspace.sourceLine? location.path earlier = some other → workspace.Passes location other

/-- A chain of directives over files that are recorded, none of them twice. -/
structure Trail (recorded : List Location) (start : Location) (files : List Location) : Prop where
  starts : files.head? = some start
  subset : files ⊆ recorded
  nodup : files.Nodup
  isChain : files.IsChain workspace.Includes

/-- What an expansion says is so, if it stops at a line of a file when these files are recorded. -/
inductive Truthful (limits : ResolutionLimits) (start : Location) (recorded : List Location)
    (location : Location) : Nat → Halt → Prop where
  | missing {line text target} (isRecorded : location ∈ recorded)
      (reaches : workspace.Reaches location line text)
      (directive : SourceLine.classify text = .inclusion target)
      (leads : workspace.regular? (location.beside target) = none) :
      Truthful limits start recorded location line
        ⟨.missingFile (location.beside target) (some (location.path, line)),
          some (workspace.stamp (location.beside target))⟩
  | malformed {line text} (isRecorded : location ∈ recorded)
      (reaches : workspace.Reaches location line text)
      (isMalformed : SourceLine.classify text = .malformed) :
      Truthful limits start recorded location line
        ⟨.malformedInclude location.path line (Text.trim text), none⟩
  | overlong {line text target place file} (isRecorded : location ∈ recorded)
      (reaches : workspace.Reaches location line text)
      (directive : SourceLine.classify text = .inclusion target)
      (leads : workspace.regular? (location.beside target) = some (place, file))
      (overlong : workspace.IsOverlong (location.beside target)) :
      Truthful limits start recorded location line
        ⟨.unreadable (location.beside target) Fault.nameTooLong.message, none⟩
  | unreadable {file} (isRecorded : location ∈ recorded)
      (present : workspace.tree.file? location = some file) (notText : file.text? = none) :
      Truthful limits start recorded location 1
        ⟨.unreadable location.path Fault.notUtf8.message, none⟩
  | tooMany {line text place} (reaches : workspace.Reaches location line text)
      (leads : workspace.target? location text = some place) (fresh : place ∉ recorded)
      (full : recorded.length = limits.maxFiles) :
      Truthful limits start recorded location line
        ⟨.tooManyIncludes place.path limits.maxFiles, none⟩
  | tooDeep {line text place files} (reaches : workspace.Reaches location line text)
      (leads : workspace.target? location text = some place) (fresh : place ∉ recorded)
      (trail : workspace.Trail recorded start files)
      (isChain : (files ++ [place]).IsChain workspace.Includes)
      (length_eq : files.length = limits.maxDepth + 1) :
      Truthful limits start recorded location line
        ⟨.tooManyIncludes place.path limits.maxDepth, none⟩

variable {workspace} {limits : ResolutionLimits} {nesting index : Nat} {start location : Location}
  {seen opened : List Location} {remaining : List (String × Nat)} {emissions : List Emission}
  {halt : Option Halt}

/-- A directive that leads to a file stops no expansion by itself. -/
theorem passes_of_leads {text target : String} {place : Location} {file : File}
    (directive : SourceLine.classify text = .inclusion target)
    (leads : workspace.LeadsTo (location.beside target) place file) :
    workspace.Passes location text :=
  .inr ⟨target, directive, by rw [leads.regular]; rfl⟩

/-- A directive that leads to a file has it as its target. -/
theorem target?_of_leads {text target : String} {place : Location} {file : File}
    (directive : SourceLine.classify text = .inclusion target)
    (leads : workspace.LeadsTo (location.beside target) place file) :
    workspace.target? location text = some place := by
  rw [target?_inclusion directive, leads.regular]
  rfl

/-- An expansion opens no more files than the limits allow. -/
theorem Unfolds.length_le
    (unfolds : workspace.Unfolds limits nesting location index opened remaining emissions halt)
    (many : opened.length ≤ limits.maxFiles) :
    (opened ++ Emission.locations emissions).length ≤ limits.maxFiles := by
  induction unfolds with
  | done | malformed | missing | overlong | tooDeep | tooMany => simpa using many
  | code isCode later inductionHypothesis => exact inductionHypothesis many
  | repeated directive leads known later inductionHypothesis => exact inductionHypothesis many
  | expanded directive leads fresh room isText inside later insideHypothesis laterHypothesis =>
    have within := insideHypothesis (by simpa using Nat.succ_le_of_lt room)
    simpa using laterHypothesis (by simpa using within)
  | unreadable directive leads fresh room => simpa using Nat.succ_le_of_lt room
  | stopped directive leads fresh room isText inside insideHypothesis =>
    simpa using insideHypothesis (by simpa using Nat.succ_le_of_lt room)

/-! ## Where an expansion stands -/

/-- A trail goes on to a file that is not recorded yet. -/
theorem Trail.concat {files : List Location} {place : Location}
    (trail : workspace.Trail opened start files) (last : files.getLast? = some location)
    (includes : workspace.Includes location place) (fresh : place ∉ opened) :
    workspace.Trail (opened ++ [place]) start (files ++ [place]) where
  starts := by
    rw [List.head?_append, trail.starts]
    rfl
  subset := append_subset_append trail.subset _
  nodup := nodup_concat trail.nodup fun member => fresh (trail.subset member)
  isChain := by
    refine List.isChain_append.2 ⟨trail.isChain, List.isChain_singleton _, ?_⟩
    simpa [last] using includes

/-- Where an expansion stands in a file: over which directives it came there, which lines it
passed, and which files it opened for them. `seen` are the files opened before these lines. -/
structure Stands (workspace : Workspace) (limits : ResolutionLimits) (start : Location)
    (nesting : Nat) (seen : List Location) (location : Location) (opened : List Location)
    (remaining : List (String × Nat)) : Prop where
  trail : ∃ files, workspace.Trail opened start files ∧ files.getLast? = some location ∧
    files.length + nesting = limits.maxDepth + 1
  many : opened.length ≤ limits.maxFiles
  passed : ∃ (earlier later : List String) (tour : List Location),
    workspace.sourceLines location.path = earlier ++ later ∧
    remaining = later.zipIdx (earlier.length + 1) ∧
    (∀ text ∈ earlier, workspace.Passes location text) ∧ opened = seen ++ tour ∧
    workspace.Tours seen (earlier.filterMap (workspace.target? location)) tour

/-- What an expansion says when it stops is so: the files that are recorded then, but for those
seen before, are on the tour from a file to the line at which it stops. -/
def StopsTruly (workspace : Workspace) (limits : ResolutionLimits) (start : Location)
    (seen : List Location) (location : Location) (recorded : List Location) (stop : Halt) : Prop :=
  ∃ visited place line, recorded = seen ++ visited ∧
    workspace.Visits seen location visited place line ∧
    workspace.Truthful limits start recorded place line stop

namespace Stands

variable {text : String} {line : Nat}

/-- It stands at the beginning of the entry file first. -/
theorem entry {file : File} {source : String} (present : workspace.tree.file? start = some file)
    (isText : file.text? = some source) (room : 0 < limits.maxFiles) :
    workspace.Stands limits start limits.maxDepth [start] start [start] (numberedLines source) where
  trail := ⟨[start],
    ⟨rfl, List.Subset.refl _, List.nodup_singleton _, List.isChain_singleton _⟩, rfl,
    Nat.add_comm _ _⟩
  many := room
  passed := ⟨[], _, [], sourceLines_path present isText, rfl, List.forall_mem_nil _, by simp, .done⟩

/-- An expansion stands in a file that it opened. -/
theorem mem_opened
    (stands : workspace.Stands limits start nesting seen location opened remaining) :
    location ∈ opened :=
  let ⟨_, trail, last, _⟩ := stands.trail
  trail.subset (List.mem_of_getLast? last)

section Line

variable (stands :
  workspace.Stands limits start nesting seen location opened ((text, line) :: remaining))
include stands

/-- The line that comes next follows the lines that were passed. -/
theorem exists_lines : ∃ (earlier later : List String) (tour : List Location),
    workspace.sourceLines location.path = earlier ++ text :: later ∧ line = earlier.length + 1 ∧
    remaining = later.zipIdx (line + 1) ∧ (∀ text ∈ earlier, workspace.Passes location text) ∧
    opened = seen ++ tour ∧
    workspace.Tours seen (earlier.filterMap (workspace.target? location)) tour := by
  obtain ⟨earlier, later, tour, lines, remaining_eq, passes, opened_eq, tours⟩ := stands.passed
  cases later with
  | nil => cases remaining_eq
  | cons other later =>
    rw [List.zipIdx_cons] at remaining_eq
    obtain ⟨⟨rfl, rfl⟩, rfl⟩ := by simpa using remaining_eq
    exact ⟨earlier, later, tour, lines, rfl, rfl, passes, opened_eq, tours⟩

/-- The line that comes next is reached. -/
theorem reaches : workspace.Reaches location line text := by
  obtain ⟨earlier, later, -, lines, rfl, -, passes, -⟩ := stands.exists_lines
  refine ⟨by simp [sourceLine?, lines], fun number other less isLine => ?_⟩
  rw [sourceLine?, lines] at isLine
  cases number with
  | zero => cases isLine
  | succ index =>
    rw [atLine?_succ, List.getElem?_append_left (by omega)] at isLine
    exact passes other (List.mem_of_getElem? isLine)

/-- It stops at the line that comes next. -/
theorem stop {stop : Halt}
    (truthful : workspace.Truthful limits start opened location line stop) :
    workspace.StopsTruly limits start seen location opened stop := by
  obtain ⟨earlier, later, tour, lines, rfl, -, -, opened_eq, tours⟩ := stands.exists_lines
  exact ⟨tour, location, _, opened_eq, .here lines tours, truthful⟩

/-- It stops in a file that the line that comes next leads to. -/
theorem stop_inside {place : Location} {recorded : List Location} {stop : Halt}
    (leads : workspace.target? location text = some place) (fresh : place ∉ opened)
    (stops : workspace.StopsTruly limits start (opened ++ [place]) place recorded stop) :
    workspace.StopsTruly limits start seen location recorded stop := by
  obtain ⟨earlier, later, tour, lines, -, -, -, rfl, tours⟩ := stands.exists_lines
  obtain ⟨visited, target, number, recorded_eq, visits, truthful⟩ := stops
  exact ⟨tour ++ place :: visited, target, number, by simp [recorded_eq],
    .inside lines tours leads fresh visits, truthful⟩

/-- A directive that leads to a file joins the two in the include graph. -/
theorem includes {target : String} {place : Location} {file : File}
    (directive : SourceLine.classify text = .inclusion target)
    (leads : workspace.LeadsTo (location.beside target) place file) :
    workspace.Includes location place :=
  leads.includes (mem_of_atLine? stands.reaches.isLine) directive

/-- It goes on behind a line that stops no expansion, with the files that were opened for it. -/
theorem next {more : List Location} (passes : workspace.Passes location text)
    (tours : workspace.Tours opened ([text].filterMap (workspace.target? location)) more)
    (many : (opened ++ more).length ≤ limits.maxFiles) :
    workspace.Stands limits start nesting seen location (opened ++ more) remaining where
  trail := by
    obtain ⟨files, trail, last, length_eq⟩ := stands.trail
    exact ⟨files, { trail with subset := List.subset_append_of_subset_left _ trail.subset },
      last, length_eq⟩
  many := many
  passed := by
    obtain ⟨earlier, later, tour, lines, rfl, remaining_eq, passedBefore, rfl, toursBefore⟩ :=
      stands.exists_lines
    refine ⟨earlier ++ [text], later, tour ++ more, by simp [lines], by simpa using remaining_eq,
      List.forall_mem_append.2 ⟨passedBefore, List.forall_mem_singleton.2 passes⟩,
      List.append_assoc _ _ _, ?_⟩
    rw [List.filterMap_append]
    exact toursBefore.append tours

/-- It goes on behind a line of code. -/
theorem next_code (isCode : SourceLine.classify text = .code) :
    workspace.Stands limits start nesting seen location opened remaining := by
  have tours : workspace.Tours opened ([text].filterMap (workspace.target? location)) [] := by
    rw [List.filterMap_cons, target?_code isCode]
    exact .done
  simpa using stands.next (.inl isCode) tours (by simpa using stands.many)

/-- It goes on behind a directive to a file that is known, with no file opened for it. -/
theorem next_repeated {target : String} {place : Location} {file : File}
    (directive : SourceLine.classify text = .inclusion target)
    (leads : workspace.LeadsTo (location.beside target) place file)
    (known : place ∈ opened) :
    workspace.Stands limits start nesting seen location opened remaining := by
  have tours : workspace.Tours opened ([text].filterMap (workspace.target? location)) [] := by
    rw [List.filterMap_cons, target?_of_leads directive leads]
    exact .known known .done
  simpa using stands.next (passes_of_leads directive leads) tours (by simpa using stands.many)

/-- It goes on behind a directive to a new file, with all files that were opened for it. -/
theorem next_expanded {target source : String} {place : Location} {file : File}
    {inner : List Emission} (directive : SourceLine.classify text = .inclusion target)
    (leads : workspace.LeadsTo (location.beside target) place file)
    (fresh : place ∉ opened) (room : opened.length < limits.maxFiles)
    (isText : file.text? = some source) {deeper : Nat}
    (inside : workspace.Unfolds limits deeper place opened.length (opened ++ [place])
      (numberedLines source) inner none) :
    workspace.Stands limits start nesting seen location
      (opened ++ place :: Emission.locations inner) remaining := by
  have insideTours := inside.tours rfl
  rw [← targets_eq leads.present isText] at insideTours
  have tours : workspace.Tours opened ([text].filterMap (workspace.target? location))
      (place :: Emission.locations inner) := by
    rw [List.filterMap_cons, target?_of_leads directive leads]
    exact .singleton fresh insideTours
  have many := inside.length_le (by simpa using Nat.succ_le_of_lt room)
  exact stands.next (passes_of_leads directive leads) tours (by simpa using many)

end Line

/-- A directive leads to the beginning of a file that is not opened yet. -/
theorem enter {target source : String} {place : Location} {file : File}
    (stands :
      workspace.Stands limits start (nesting + 1) seen location opened ((text, line) :: remaining))
    (directive : SourceLine.classify text = .inclusion target)
    (leads : workspace.LeadsTo (location.beside target) place file)
    (fresh : place ∉ opened) (room : opened.length < limits.maxFiles)
    (isText : file.text? = some source) :
    workspace.Stands limits start nesting (opened ++ [place]) place (opened ++ [place])
      (numberedLines source) where
  trail := by
    obtain ⟨files, trail, last, length_eq⟩ := stands.trail
    refine ⟨files ++ [place], trail.concat last (stands.includes directive leads) fresh,
      by simp, ?_⟩
    rw [List.length_append, List.length_singleton]
    omega
  many := by
    rw [List.length_append, List.length_singleton]
    exact room
  passed := ⟨[], _, [], sourceLines_path leads.present isText, rfl,
    List.forall_mem_nil _, by simp, .done⟩

end Stands

/-! ## Where an expansion stops -/

/-- An expansion stops in front of a file that is no text. -/
theorem stopsTruly_unreadable {file : File} (isRecorded : location ∈ seen)
    (present : workspace.tree.file? location = some file) (notText : file.text? = none) :
    workspace.StopsTruly limits start seen location seen
      ⟨.unreadable location.path Fault.notUtf8.message, none⟩ :=
  ⟨[], location, 1, (List.append_nil _).symm, .here (List.nil_append _).symm .done,
    .unreadable isRecorded present notText⟩

/-- What an expansion says when it stops is so. -/
theorem Unfolds.truthful
    (unfolds : workspace.Unfolds limits nesting location index opened remaining emissions halt)
    (stands : workspace.Stands limits start nesting seen location opened remaining) :
    ∀ stop ∈ halt, workspace.StopsTruly limits start seen location
      (opened ++ Emission.locations emissions) stop := by
  induction unfolds generalizing seen with
  | done => exact fun stop never => by cases never
  | code isCode later inductionHypothesis => exact inductionHypothesis (stands.next_code isCode)
  | repeated directive leads known later inductionHypothesis =>
    exact inductionHypothesis (stands.next_repeated directive leads known)
  | expanded directive leads fresh room isText inside later insideHypothesis laterHypothesis =>
    simpa using laterHypothesis (stands.next_expanded directive leads fresh room isText inside)
  | malformed isMalformed =>
    rintro stop ⟨⟩
    rw [Emission.locations_nil, List.append_nil]
    exact stands.stop (.malformed stands.mem_opened stands.reaches isMalformed)
  | missing directive leads =>
    rintro stop ⟨⟩
    rw [Emission.locations_nil, List.append_nil]
    exact stands.stop (.missing stands.mem_opened stands.reaches directive leads)
  | overlong directive leads overlong =>
    rintro stop ⟨⟩
    rw [Emission.locations_nil, List.append_nil]
    exact stands.stop (.overlong stands.mem_opened stands.reaches directive leads overlong)
  | tooDeep directive leads fresh =>
    rintro stop ⟨⟩
    -- The trail is as long as may be, and the file that is refused would come behind it.
    obtain ⟨files, trail, last, length_eq⟩ := stands.trail
    have deeper := trail.concat last (stands.includes directive leads) fresh
    rw [Emission.locations_nil, List.append_nil]
    exact stands.stop (.tooDeep stands.reaches (target?_of_leads directive leads) fresh trail
      deeper.isChain length_eq)
  | tooMany directive leads fresh full =>
    rintro stop ⟨⟩
    rw [Emission.locations_nil, List.append_nil]
    exact stands.stop (.tooMany stands.reaches (target?_of_leads directive leads) fresh
      (Nat.le_antisymm stands.many full))
  | unreadable directive leads fresh room notText =>
    rintro stop ⟨⟩
    -- Nothing of the file is passed, so the tour ends in front of its first line.
    refine stands.stop_inside (target?_of_leads directive leads) fresh ?_
    exact stopsTruly_unreadable (List.mem_append_right _ List.mem_cons_self)
      leads.present notText
  | stopped directive leads fresh room isText inside insideHypothesis =>
    intro stop halts
    have stops := insideHypothesis (stands.enter directive leads fresh room isText) stop halts
    rw [List.append_assoc] at stops
    exact stands.stop_inside (target?_of_leads directive leads) fresh stops

/-! ## Failed resolutions -/

/-- The stamp of a regular file has its time. -/
theorem stampAt_of_file? {place : Location} {file : File}
    (present : workspace.tree.file? place = some file) :
    workspace.stampAt place = ⟨place.path, some file.modified⟩ := by
  rw [stampAt, present]
  rfl

/-- The stamps of an expansion are those of the files at its locations. -/
theorem Unfolds.stamps_eq
    (unfolds : workspace.Unfolds limits nesting location index opened remaining emissions halt) :
    Emission.stamps emissions = (Emission.locations emissions).map workspace.stampAt := by
  induction unfolds with
  | done | malformed | missing | overlong | tooDeep | tooMany => rfl
  | code isCode later inductionHypothesis => exact inductionHypothesis
  | repeated directive leads known later inductionHypothesis => exact inductionHypothesis
  | expanded directive leads fresh room isText inside later insideHypothesis laterHypothesis =>
    simp [insideHypothesis, laterHypothesis, stampAt_of_file? leads.present]
  | unreadable directive leads => simp [stampAt_of_file? leads.present]
  | stopped directive leads fresh room isText inside insideHypothesis =>
    simp [insideHypothesis, stampAt_of_file? leads.present]

namespace Faltering

def main : Location := [⟨"main", by decide⟩]

def first : Location := [⟨"first", by decide⟩]

def second : Location := [⟨"second", by decide⟩]

end Faltering

end Workspace

end LiveShader
