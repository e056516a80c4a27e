import LiveShader.Proofs.Resolution.Attribution
import LiveShader.Proofs.SourceLine

/-!
# A flattened text stays as it is

The lines of a unit hold no directive, so a file with the text of a unit resolves to the lines
of the unit again (`isSettled_of_resolve`). Nothing but lines of code is expanded then, and the
one segment of the file grows with each of them (`Provenance.IsWhole`).
-/

namespace LiveShader

/-! ## One file, line by line -/

/-- The segments of a file that is the whole unit, with so many lines. -/
def Segment.whole : Nat → List Segment
  | 0 => []
  | last + 1 => [⟨1, last + 1, 1⟩]

/-- A next line continues the segment of all lines before. -/
theorem Segment.push_whole (count : Nat) :
    push (whole count) (count + 1) (count + 1) = whole (count + 1) := by
  cases count with
  | zero => rfl
  | succ last =>
    have continues : (⟨1, last + 1, 1⟩ : Segment).continuesWith (last + 1 + 1) (last + 1 + 1) =
        true := continuesWith_iff.2 ⟨rfl, rfl⟩
    rw [whole, push, if_pos continues, whole]

/-- A whole file is one segment, or none if it has no lines. -/
theorem Segment.length_whole_le (count : Nat) : (whole count).length ≤ 1 := by
  cases count with
  | zero => exact Nat.zero_le 1
  | succ last => exact Nat.le_refl 1

namespace Provenance

/-- The lines of a unit are those of one file, in their order, and so far there are so many. -/
structure IsWhole (provenance : Provenance) (path : Path) (count : Nat) : Prop where
  contributor : ∃ contributor, provenance.contributors = [contributor] ∧
    contributor.path = path ∧ contributor.segments = Segment.whole count
  placeholders_eq : provenance.placeholders = []
  totalLines_eq : provenance.totalLines = count

variable {provenance : Provenance} {path : Path} {count : Nat}

/-- A new contributor is whole, without lines. -/
theorem isWhole_addContributor (root path : Path) (modified : Option Nat) :
    ((empty root).addContributor path modified).IsWhole path 0 where
  contributor := ⟨_, rfl, rfl, rfl⟩
  placeholders_eq := rfl
  totalLines_eq := rfl

/-- The next line leaves a contributor whole. -/
theorem IsWhole.addOwned (isWhole : provenance.IsWhole path count) :
    (provenance.addOwned 0 (count + 1)).IsWhole path (count + 1) := by
  obtain ⟨⟨contributor, alone, path_eq, segments_eq⟩, placeholders_eq, totalLines_eq⟩ := isWhole
  refine ⟨⟨contributor.addOwned (count + 1) (count + 1), ?_, path_eq, ?_⟩, placeholders_eq, ?_⟩
  · rw [Provenance.addOwned, totalLines_eq, alone]
    rfl
  · rw [Contributor.addOwned, segments_eq, Segment.push_whole]
  · rw [Provenance.addOwned, totalLines_eq]

/-- Each line is the line of the file with the same number. -/
theorem IsWhole.locate_eq (isWhole : provenance.IsWhole path count) {contributor : Contributor}
    (alone : provenance.contributors = [contributor]) {line : Nat} (first : 1 ≤ line)
    (last : line ≤ count) : provenance.locate line = some ⟨0, contributor, line⟩ := by
  obtain ⟨other, otherAlone, -, segments_eq⟩ := isWhole.contributor
  obtain rfl := List.singleton_inj.1 (alone.symm.trans otherAlone)
  obtain ⟨before, rfl⟩ := Nat.exists_eq_add_of_le' (Nat.le_trans first last)
  have inside : (⟨1, before + 1, 1⟩ : Segment).contains line = true :=
    Segment.contains_iff.2 ⟨first, last⟩
  have owned : contributor.localLine? line = some line := by
    rw [Contributor.localLine?, segments_eq, Segment.whole]
    simp [inside, Segment.localLine, Nat.sub_add_cancel first]
  rw [locate, if_neg (Nat.ne_of_gt first), alone]
  simp [owned]

end Provenance

/-- Lines of code of a contributor, one after the other. -/
def Emission.codeLines (index : Nat) (numbered : List (String × Nat)) : List Emission :=
  numbered.map fun (text, line) => .code index line text

/-- Lines of code are emitted as they are. -/
theorem Emission.map_snd_lines_codeLines (index : Nat) (numbered : List (String × Nat)) :
    (lines (codeLines index numbered)).map Prod.snd = numbered.map Prod.fst := by
  induction numbered with
  | nil => rfl
  | cons numbered rest inductionHypothesis => exact congrArg (numbered.1 :: ·) inductionHypothesis

/-- Lines of code go on the one file of a draft. -/
theorem Draft.isWhole_emitAll {draft : Draft} {path : Path} {count : Nat}
    (isWhole : draft.provenance.IsWhole path count) (texts : List String) :
    (draft.emitAll (Emission.codeLines 0 (texts.zipIdx (count + 1)))).provenance.IsWhole path
      (count + texts.length) := by
  induction texts generalizing draft count with
  | nil => exact isWhole
  | cons text rest inductionHypothesis =>
    have next : (draft.addCode 0 (count + 1) text).provenance.IsWhole path (count + 1) :=
      isWhole.addOwned
    rw [List.length_cons, Nat.add_comm rest.length, ← Nat.add_assoc]
    exact inductionHypothesis next

namespace Workspace

variable {workspace : Workspace} {limits : ResolutionLimits}

/-- Lines of code are expanded to themselves. -/
theorem unfolds_codeLines {nesting : Nat} {location : Location} {index : Nat}
    {opened : List Location} {remaining : List (String × Nat)}
    (allCode : ∀ numbered ∈ remaining, SourceLine.classify numbered.1 = .code) :
    workspace.Unfolds limits nesting location index opened remaining
      (Emission.codeLines index remaining) none := by
  induction remaining with
  | nil => exact .done
  | cons numbered rest inductionHypothesis =>
    obtain ⟨isCode, allLater⟩ := List.forall_mem_cons.1 allCode
    exact .code isCode (inductionHypothesis allLater)

end Workspace

/-! ## The text of a unit -/

/-- A file that holds the bytes of a text holds the text. -/
theorem File.text?_of_bytes {file : File} {text : String} (bytes_eq : file.bytes = text.toUTF8) :
    file.text? = some text := by
  rw [File.text?, bytes_eq, String.fromUTF8?, String.toUTF8, dif_pos text.isValidUTF8]
  rfl

/-- Lines that end in no carriage return are read back from the text of a unit. -/
theorem FlatUnit.lines_text {unit : FlatUnit} (areLines : Text.AreLines unit.lines)
    (unreturned : ∀ line ∈ unit.lines, line.toList.getLast? ≠ some '\r') :
    Text.lines unit.text = unit.lines := by
  rw [FlatUnit.text, Text.lines_unlines areLines]
  refine (List.map_congr_left fun line member => ?_).trans (List.map_id unit.lines)
  rw [Text.dropReturn_eq_self (unreturned line member), String.ofList_toList, id]

/-- A resolution is one file as it stands: the lines are these, all of them are owned, in at most
one segment, and each is the line of the file with the same number. -/
structure Resolution.IsPlain (resolution : Resolution) (lines : List String) (path : Path) :
    Prop where
  lines_eq : resolution.unit.lines = lines
  totalLines_eq : resolution.provenance.totalLines = lines.length
  placeholders_eq : resolution.provenance.placeholders = []
  contributor : ∃ contributor, resolution.provenance.contributors = [contributor] ∧
    contributor.path = path ∧ contributor.segments.length ≤ 1 ∧
    ∀ line, 1 ≤ line → line ≤ resolution.provenance.totalLines →
      resolution.provenance.locate line = some ⟨0, contributor, line⟩

/-- The unit is settled: none of its lines holds the marker of a directive, and every file with
its text that has a canonical path, under any limits that admit a file, resolves to the lines of
the unit as they stand. -/
structure FlatUnit.IsSettled (unit : FlatUnit) : Prop where
  unmarked : ∀ line ∈ unit.lines, ¬ SourceLine.marker <:+: line.toList
  resolves : ∀ (workspace : Workspace) (entry : Path) (limits : ResolutionLimits) (location file),
    workspace.LeadsTo entry location file → file.bytes = unit.text.toUTF8 →
    1 ≤ limits.maxFiles → ∃ resolution, workspace.resolve entry limits = .ok resolution ∧
      resolution.IsPlain unit.lines location.path

namespace Workspace

variable {workspace : Workspace} {limits : ResolutionLimits} {entry : Path}

/-- The unit of one file has the lines of the file. -/
theorem isWhole_entryDraft (location : Location) (file : File) (text : String) :
    (entryDraft location (.opened location file ::
      Emission.codeLines 0 (numberedLines text))).provenance.IsWhole location.path
        (Text.lines text).length := by
  have opened : ((Draft.empty (Location.path location.dropLast)).openFile location
      file).provenance.IsWhole location.path 0 := Provenance.isWhole_addContributor _ _ _
  have isWhole := Draft.isWhole_emitAll opened (Text.lines text)
  rw [Nat.zero_add, Nat.zero_add] at isWhole
  rw [entryDraft, Draft.emitAll_cons, Draft.emit_opened, numberedLines]
  exact isWhole

/-- A file of code is drafted as its own lines. -/
theorem lines_entryDraft (location : Location) (file : File) (text : String) :
    (entryDraft location (.opened location file ::
      Emission.codeLines 0 (numberedLines text))).lines = Text.lines text := by
  rw [entryDraft, Draft.lines_emitAll, Emission.lines_opened, Emission.map_snd_lines_codeLines,
    numberedLines, List.zipIdx_map_fst, Draft.empty, List.nil_append]

/-- A file of lines of code resolves to its lines as they stand. -/
theorem exists_isPlain {location : Location} {file : File} {text : String}
    (leads : workspace.LeadsTo entry location file) (isText : file.text? = some text)
    (room : 1 ≤ limits.maxFiles)
    (allCode : ∀ line ∈ Text.lines text, SourceLine.classify line = .code) :
    ∃ resolution, workspace.resolve entry limits = .ok resolution ∧
      resolution.IsPlain (Text.lines text) location.path := by
  have codeHere : ∀ numbered ∈ numberedLines text, SourceLine.classify numbered.1 = .code := by
    rintro ⟨line, number⟩ member
    exact allCode line (mem_of_atLine? (mem_zipIdx_one_iff.1 member))
  have unfolds : workspace.Unfolds limits limits.maxDepth location 0 [location]
      (numberedLines text) (Emission.codeLines 0 (numberedLines text)) none :=
    unfolds_codeLines codeHere
  have resolved := (Expands.lines room isText unfolds).resolve_eq leads
  have lines_eq := lines_entryDraft location file text
  have isWhole := isWhole_entryDraft location file text
  -- The draft is never evaluated, since its lines are those of any text.
  generalize entryDraft location _ = draft at resolved lines_eq isWhole
  obtain ⟨contributor, alone, path_eq, segments_eq⟩ := isWhole.contributor
  refine ⟨_, resolved, lines_eq, isWhole.totalLines_eq, isWhole.placeholders_eq, contributor,
    alone, path_eq, ?_, ?_⟩
  · rw [segments_eq]
    exact Segment.length_whole_le _
  · intro line first last
    exact isWhole.locate_eq alone first (Nat.le_trans last (Nat.le_of_eq isWhole.totalLines_eq))

/-- Every unit whose lines do not end in returns is settled: to resolve its text again gives its
lines, in one piece. -/
theorem isSettled_of_resolve {resolution : Resolution}
    (resolved : workspace.resolve entry limits = .ok resolution)
    (unreturned : ∀ line ∈ resolution.unit.lines, line.toList.getLast? ≠ some '\r') :
    resolution.unit.IsSettled := by
  obtain ⟨course⟩ := resolve_ok_iff.1 resolved
  have allCode : ∀ line ∈ resolution.unit.lines, SourceLine.classify line = .code := by
    intro line member
    rcases course.blank_or_code member with rfl | ⟨isCode, -⟩
    · rfl
    · exact isCode
  refine ⟨fun line member => SourceLine.classify_eq_code_iff.1 (allCode line member), ?_⟩
  intro others path otherLimits location file leads bytes_eq room
  have lines_eq := FlatUnit.lines_text course.areLines unreturned
  rw [← lines_eq]
  exact exists_isPlain leads (File.text?_of_bytes bytes_eq) room (lines_eq.symm ▸ allCode)

/-- A workspace of one file, which has the text that entangled files are flattened to. -/
def disentangled : Workspace where
  tree := ⟨[([⟨"flat", by decide⟩], .file ⟨"y\n\nz\nx\n\n".toUTF8, 4⟩)], fun _ => 0⟩
  directory := []

/-- Files that include each other are flattened, and their text is flattened again under the
narrowest limits. -/
theorem isSettled_entangled : ∃ resolution,
    entangled.resolve ⟨"top"⟩ .standard = .ok resolution ∧
      (∀ line ∈ resolution.unit.lines, line.toList.getLast? ≠ some '\r') ∧
      resolution.unit.IsSettled ∧
      ∃ again location, disentangled.resolve ⟨"flat"⟩ ⟨0, 1⟩ = .ok again ∧
        again.IsPlain ["y", "", "z", "x", ""] location := by
  have lines : (entangled.resolve ⟨"top"⟩ .standard).toOption.map (·.unit.lines) =
      some ["y", "", "z", "x", ""] := by decide +kernel
  cases resolved : entangled.resolve ⟨"top"⟩ .standard with
  | error => simp [resolved, Except.toOption] at lines
  | ok resolution =>
    rw [resolved] at lines
    have lines_eq : resolution.unit.lines = ["y", "", "z", "x", ""] := Option.some.inj lines
    have unreturned : ∀ line ∈ resolution.unit.lines, line.toList.getLast? ≠ some '\r' := by
      rw [lines_eq]
      decide
    have settled := isSettled_of_resolve resolved unreturned
    have leads : disentangled.LeadsTo ⟨"flat"⟩ [⟨"flat", by decide⟩]
        ⟨"y\n\nz\nx\n\n".toUTF8, 4⟩ := ⟨rfl, rfl⟩
    obtain ⟨again, againResolved, isPlain⟩ := settled.resolves disentangled ⟨"flat"⟩ ⟨0, 1⟩ _ _
      leads (by rw [FlatUnit.text, lines_eq]; rfl) (by decide)
    rw [lines_eq] at isPlain
    exact ⟨resolution, rfl, unreturned, settled, again, _, againResolved, isPlain⟩

end Workspace

end LiveShader
