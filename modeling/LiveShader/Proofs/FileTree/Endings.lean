import LiveShader.Proofs.Text.Endings
import LiveShader.Stamp

/-!
# Trees whose files have the same lines

Two files have the same lines if their bytes were written from the same lines, with whatever
endings. Two trees have the same lines if at each location both have the same but for such
files. Then a path leads to the same place in both, and what it finds there has the same lines
and the same time.
-/

namespace LiveShader

/-! ## Files -/

namespace File

/-- The text of a file is the one that its bytes encode. -/
theorem text?_eq_some_iff {file : File} {text : String} :
    file.text? = some text ↔ Text.encoding text.toList = file.bytes.data.toList := by
  have bytesOf : ∀ other : String, other.toByteArray.data.toList = Text.encoding other.toList := by
    intro other
    rw [← String.utf8Encode_toList, List.utf8Encode, List.toList_data_toByteArray]
    rfl
  rw [text?, String.fromUTF8?]
  constructor
  · intro reads
    split at reads
    · obtain rfl := Option.some.inj reads
      exact (bytesOf _).symm
    · cases reads
  · intro bytes_eq
    have same : text.toByteArray = file.bytes := by
      apply ByteArray.ext
      apply Array.toList_inj.1
      rw [bytesOf, bytes_eq]
    have valid : file.bytes.IsValidUTF8 := same ▸ text.isValidUTF8
    rw [dif_pos valid]
    exact congrArg some (String.toByteArray_inj.1 same.symm)

/-- The bytes of the files were written from the same lines, at the same time. -/
structure SameLines (first second : File) : Prop where
  modified_eq : second.modified = first.modified
  written : ∃ lines,
    Text.Writes Text.feedByte Text.returnByte lines first.bytes.data.toList ∧
      Text.Writes Text.feedByte Text.returnByte lines second.bytes.data.toList

namespace SameLines

variable {first second : File}

/-- Which of the files is named first does not matter. -/
theorem symm (same : first.SameLines second) : second.SameLines first where
  modified_eq := same.modified_eq.symm
  written := by
    obtain ⟨lines, writesFirst, writesSecond⟩ := same.written
    exact ⟨lines, writesSecond, writesFirst⟩

/-- If one of the files is UTF-8, the other one is, and the same lines are read from it. -/
theorem exists_text (same : first.SameLines second) {text : String}
    (reads : first.text? = some text) :
    ∃ other, second.text? = some other ∧ Text.lines other = Text.lines text := by
  obtain ⟨lines, writesFirst, writesSecond⟩ := same.written
  obtain ⟨decoded, rfl, writes⟩ := writesFirst.exists_decoded (text?_eq_some_iff.1 reads)
  obtain ⟨other, bytes_eq, writesOther⟩ := writesSecond.exists_encoded
  refine ⟨String.ofList other, text?_eq_some_iff.2 ?_, ?_⟩
  · rw [String.toList_ofList, bytes_eq]
  · rw [← String.toList_ofList (l := other)] at writesOther
    rw [writesOther.lines_eq, writes.lines_eq]

/-- What is read from the files is the same. -/
theorem lines?_eq (same : first.SameLines second) :
    second.text?.map Text.lines = first.text?.map Text.lines := by
  cases reads : first.text? with
  | some text =>
    obtain ⟨other, readsOther, lines_eq⟩ := same.exists_text reads
    rw [readsOther, Option.map_some, Option.map_some, lines_eq]
  | none =>
    cases readsOther : second.text? with
    | none => rfl
    | some other =>
      obtain ⟨text, readsFirst, -⟩ := same.symm.exists_text readsOther
      simp [reads] at readsFirst

/-- Texts have the same lines if the same lines are read from them, and none of these ends in a
carriage return. -/
theorem of_texts {text other : String} (modified_eq : second.modified = first.modified)
    (reads : first.text? = some text) (readsOther : second.text? = some other)
    (lines_eq : Text.lines other = Text.lines text)
    (unreturned : ∀ line ∈ Text.lines text, line.toList.getLast? ≠ some '\r') :
    first.SameLines second where
  modified_eq := modified_eq
  written := by
    have writes := (Text.writes_lines unreturned).encode
    have writesOther := (Text.writes_lines (lines_eq ▸ unreturned)).encode
    rw [text?_eq_some_iff.1 reads] at writes
    rw [text?_eq_some_iff.1 readsOther, lines_eq] at writesOther
    exact ⟨_, writes, writesOther⟩

end SameLines

end File

/-! ## Trees -/

/-- The entries are the same, or files with the same lines. -/
inductive Entry.SameLines : Entry → Entry → Prop
  | file {first second : File} (same : first.SameLines second) :
      Entry.SameLines (.file first) (.file second)
  | directory : Entry.SameLines .directory .directory
  | link (target : Path) : Entry.SameLines (.link target) (.link target)

namespace FileTree

/-- At each location both trees have nothing, or entries with the same lines, and the directories
were changed at the same times. -/
structure SameLines (first second : FileTree) : Prop where
  entries : ∀ location,
    Option.Rel Entry.SameLines (first.entryAt? location) (second.entryAt? location)
  times_eq : second.times = first.times

variable {first second : FileTree}

namespace SameLines

/-- A tree without entries has the same lines as itself. -/
theorem root (times : Location → Nat) : SameLines ⟨[], times⟩ ⟨[], times⟩ where
  entries location := by
    rw [entryAt?]
    split
    · exact .some .directory
    · exact .none
  times_eq := rfl

/-- One more entry in both trees. -/
theorem cons {place : Location} {entry other : Entry} {entries others : List (Location × Entry)}
    {times : Location → Nat} (alike : entry.SameLines other)
    (later : SameLines ⟨entries, times⟩ ⟨others, times⟩) :
    SameLines ⟨(place, entry) :: entries, times⟩ ⟨(place, other) :: others, times⟩ where
  entries location := by
    have elsewhere := later.entries location
    rw [entryAt?, entryAt?] at elsewhere ⊢
    split
    · exact .some .directory
    · rename_i below
      rw [if_neg below, if_neg below] at elsewhere
      rw [List.lookup_cons, List.lookup_cons]
      split
      · exact .some alike
      · exact elsewhere
  times_eq := rfl

/-- What is crossed or entered is the same, so the walk is. -/
theorem walkWith_eq (same : first.SameLines second) (admits : Location → List String → Bool)
    (follow : Location → List String → Except Fault Location) (current : Location)
    (pieces : List String) :
    second.walkWith admits follow current pieces = first.walkWith admits follow current pieces := by
  induction pieces generalizing current with
  | nil => rfl
  | cons piece rest inductionHypothesis =>
    rw [walkWith, walkWith]
    have here := same.entries current
    generalize first.entryAt? current = entry, second.entryAt? current = other at here ⊢
    cases here with
    | none => rfl
    | some alike =>
      cases alike with
      | file | link => rfl
      | directory =>
        simp only [inductionHypothesis]
        cases Name.ofText? piece with
        | none => rfl
        | some name =>
          dsimp only
          have below := same.entries (current ++ [name])
          generalize first.entryAt? (current ++ [name]) = entry,
            second.entryAt? (current ++ [name]) = other at below ⊢
          cases below with
          | none => rfl
          | some alike => cases alike <;> rfl

/-- A walk leads to the same place in both trees. -/
theorem walkBy_eq (same : first.SameLines second) (admits : Location → List String → Bool)
    (links : Nat) : second.walkBy admits links = first.walkBy admits links := by
  induction links with
  | zero =>
    funext current pieces
    exact same.walkWith_eq _ _ current pieces
  | succ links inductionHypothesis =>
    funext current pieces
    rw [walkBy, walkBy, inductionHypothesis]
    exact same.walkWith_eq _ _ current pieces

/-- The directories of both trees are at the same places. -/
theorem isDirectoryAt_eq (same : first.SameLines second) (location : Location) :
    second.isDirectoryAt location = first.isDirectoryAt location := by
  rw [isDirectoryAt, isDirectoryAt]
  have here := same.entries location
  generalize first.entryAt? location = entry, second.entryAt? location = other at here ⊢
  cases here with
  | none => rfl
  | some alike => cases alike <;> rfl

/-- A location is reached in both trees, or in neither. -/
theorem isReached_eq (same : first.SameLines second) (location : Location) :
    second.isReached location = first.isReached location := by
  simp only [isReached, same.isDirectoryAt_eq]

/-- A path is walked in both trees, or in neither. -/
theorem lead_eq (same : first.SameLines second)
    (walk : Location → List String → Except Fault Location) (base : Location) (path : Path) :
    second.lead walk base path = first.lead walk base path := by
  rw [lead, lead, same.isReached_eq]

/-- A path leads to the same place in both trees. -/
theorem locate_eq (same : first.SameLines second) (base : Location) (path : Path) :
    second.locate base path = first.locate base path := by
  rw [locate, locate, walk, walk, same.walkBy_eq, same.lead_eq]

/-- A path has the same canonical path in both trees. -/
theorem canonicalize_eq (same : first.SameLines second) (base : Location) (path : Path) :
    second.canonicalize base path = first.canonicalize base path := by
  rw [canonicalize, canonicalize, same.walkBy_eq, same.lead_eq]

/-- The files at a location have the same lines. -/
theorem file?_rel (same : first.SameLines second) (location : Location) :
    Option.Rel File.SameLines (first.file? location) (second.file? location) := by
  rw [file?, file?]
  have here := same.entries location
  generalize first.entryAt? location = entry, second.entryAt? location = other at here ⊢
  cases here with
  | none => exact .none
  | some alike =>
    cases alike with
    | file same => exact .some same
    | directory | link => exact .none

/-- What is at a location was changed at the same time in both trees. -/
theorem modified?_eq (same : first.SameLines second) (location : Location) :
    second.modified? location = first.modified? location := by
  rw [modified?, modified?, same.times_eq]
  have here := same.entries location
  generalize first.entryAt? location = entry, second.entryAt? location = other at here ⊢
  cases here with
  | none => rfl
  | some alike =>
    cases alike with
    | file alike => exact congrArg some alike.modified_eq
    | directory | link => rfl

end SameLines

end FileTree

/-! ## Workspaces -/

namespace Workspace

/-- The trees have the same lines, and both are seen from one directory. -/
structure SameLines (first second : Workspace) : Prop where
  tree : first.tree.SameLines second.tree
  directory_eq : second.directory = first.directory

namespace SameLines

variable {first second : Workspace}

/-- A path leads to the same place in both workspaces. -/
theorem locate_eq (same : first.SameLines second) (path : Path) :
    second.locate path = first.locate path := by
  rw [locate, locate, same.directory_eq, same.tree.locate_eq]

/-- A path has the same canonical path in both workspaces. -/
theorem canonicalize_eq (same : first.SameLines second) (path : Path) :
    second.canonicalize path = first.canonicalize path := by
  rw [canonicalize, canonicalize, same.directory_eq, same.tree.canonicalize_eq]

/-- A path leads to the same place, and to files with the same lines. -/
theorem regular?_rel (same : first.SameLines second) (path : Path) :
    Option.Rel (fun found other => other.1 = found.1 ∧ found.2.SameLines other.2)
      (first.regular? path) (second.regular? path) := by
  rw [regular?, regular?, same.locate_eq]
  cases first.locate path with
  | error fault => exact .none
  | ok location =>
    dsimp only
    have here := same.tree.file?_rel location
    generalize first.tree.file? location = found, second.tree.file? location = other at here ⊢
    cases here with
    | none => exact .none
    | some alike => exact .some ⟨rfl, alike⟩

/-- What a path leads to was changed at the same time. -/
theorem modified?_eq (same : first.SameLines second) (path : Path) :
    second.modified? path = first.modified? path := by
  rw [modified?, modified?, same.locate_eq]
  cases first.locate path with
  | error fault => rfl
  | ok location => exact same.tree.modified?_eq location

/-- The stamps of a path are the same. -/
theorem stamp_eq (same : first.SameLines second) (path : Path) :
    second.stamp path = first.stamp path := by
  rw [stamp, stamp, same.modified?_eq]

end SameLines

end Workspace

end LiveShader
