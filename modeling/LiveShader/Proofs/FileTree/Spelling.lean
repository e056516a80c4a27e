import LiveShader.Proofs.FileTree.Canonicalization
import LiveShader.Proofs.FileTree.Composition

/-!
# Spellings from different directories

Two spellings of one file, seen from two working directories, have parents that lead to one
directory. From there the rest is the same (`GoesOn`), so the spellings lead to the same place
unless the limits of the system on one walk tell them apart (`locate_eq_of_goesOn`).
-/

namespace LiveShader

namespace FileTree

variable {base next path : Path} {piece : String}

/-! ## Pieces of paths -/

/-- The only path with one empty piece is the empty one. -/
theorem pieces_eq_singleton_iff : pieces path = [""] ↔ path.text = "" := by
  constructor
  · intro isEmpty
    have cut : Text.split '/' path.text.toList = [[]] := by
      have nonempty := Text.split_ne_nil '/' path.text.toList
      obtain ⟨piece, rest, same⟩ := List.exists_cons_of_ne_nil nonempty
      simpa [pieces, same] using isEmpty
    have text := Text.join_split '/' path.text.toList
    rw [cut] at text
    exact String.toList_injective text.symm
  · intro isEmpty
    simp [pieces, isEmpty, Text.split]

/-- The characters of a path are those of its pieces, but for the slashes. -/
theorem mem_text_iff {character : Char} (notSlash : character ≠ '/') :
    character ∈ path.text.toList ↔ ∃ piece ∈ pieces path, character ∈ piece.toList := by
  have inPiece : character ∈ path.text.toList ↔
      ∃ piece ∈ Text.split '/' path.text.toList, character ∈ piece := by
    rw [← Text.mem_join_iff notSlash, Text.join_split]
  rw [inPiece]
  constructor
  · rintro ⟨piece, member, inside⟩
    exact ⟨_, List.mem_map_of_mem member, by rwa [String.toList_ofList]⟩
  · rintro ⟨_, member, inside⟩
    obtain ⟨piece, isPiece, rfl⟩ := List.mem_map.1 member
    exact ⟨piece, isPiece, by rwa [String.toList_ofList] at inside⟩

/-! ## Going on from a path -/

/-- A path goes on from another one along the pieces of a third. -/
structure GoesOn (base next path : Path) : Prop where
  isAbsolute_eq : path.isAbsolute = base.isAbsolute
  pieces_eq : ∃ front, pieces path = front ++ pieces next ∧
    front.filter isStep = (pieces base).filter isStep

/-- What goes on behind a path starts where the path does. -/
theorem isAbsolute_eq_of_append {rest : List Char} (nonempty : base.text.toList ≠ [])
    (text : path.text.toList = base.text.toList ++ rest) : path.isAbsolute = base.isAbsolute := by
  obtain ⟨head, tail, baseText⟩ := List.exists_cons_of_ne_nil nonempty
  simp [Path.isAbsolute, text, baseText]

/-- A relative path goes on from the one that it is joined to. -/
theorem goesOn_join (isRelative : next.isAbsolute = false) : GoesOn base next (base.join next) := by
  rcases List.eq_nil_or_concat base.text.toList with isEmpty | ⟨front, last, text⟩
  · have joined : base.join next = next := by
      have isNothing : base.text = "" := String.toList_injective isEmpty
      simp [Path.join, isRelative, isNothing]
    refine ⟨?_, [], by rw [joined, List.nil_append], by simp [pieces, isEmpty, Text.split, isStep]⟩
    rw [joined, isRelative]
    simp [Path.isAbsolute, isEmpty]
  rw [List.concat_eq_append] at text
  have nonempty : base.text.toList ≠ [] := by simp [text]
  by_cases isSlash : last = '/'
  · subst isSlash
    have joined : (base.join next).text.toList = base.text.toList ++ next.text.toList := by
      simp [Path.join, isRelative, text]
    refine ⟨isAbsolute_eq_of_append nonempty joined, (Text.split '/' front).map String.ofList,
      ?_, ?_⟩
    · simp [pieces, joined, text, Text.split_append_separator]
    · simp [pieces, text, Text.split_append_separator, Text.split, isStep]
  · have joined : (base.join next).text.toList = base.text.toList ++ '/' :: next.text.toList := by
      simp [Path.join, isRelative, text, isSlash]
    refine ⟨isAbsolute_eq_of_append nonempty joined, pieces base, ?_, rfl⟩
    simp only [pieces, joined, Text.split_append_separator, List.map_append]

/-! ## The parent of a path -/

/-- The pieces of a path up to those behind its anchor. -/
def anchorPieces : Path.Anchor → List String
  | .root => [""]
  | .here => ["."]
  | .bare => []

/-- The pieces of a path are those of its anchor and of its body. -/
theorem pieces_eq_layout (path : Path) :
    pieces path = anchorPieces path.layout.anchor ++ path.layout.body.map String.ofList := by
  unfold pieces Path.layout
  split
  · rename_i rest text
    simp [text, Text.split, anchorPieces]
  · split
    · rename_i body cut
      simp [cut, anchorPieces]
    · rfl

/-- A path is absolute exactly if it is laid out from the root. -/
theorem isAbsolute_eq_layout (path : Path) :
    path.isAbsolute = decide (path.layout.anchor = .root) := by
  unfold Path.isAbsolute Path.layout
  split
  · rename_i rest text
    simp [text]
  · rename_i notSlash
    have notRoot : path.text.toList.head? ≠ some '/' := by
      intro isSlash
      obtain ⟨rest, text⟩ := List.head?_eq_some_iff.1 isSlash
      exact notSlash rest text
    split <;> simp [notRoot]

/-- No piece of a path behind its anchor holds a slash. -/
theorem slash_not_mem_body {piece : List Char} (member : piece ∈ path.layout.body) :
    '/' ∉ piece := by
  unfold Path.layout at member
  split at member
  · exact Text.not_mem_of_mem_split member
  · split at member
    · rename_i body cut
      exact Text.not_mem_of_mem_split (cut ▸ List.mem_cons_of_mem _ member)
    · exact Text.not_mem_of_mem_split member

/-- A piece is a step exactly if it is no filler. -/
theorem isStep_ofList (piece : List Char) :
    isStep (String.ofList piece) = !Path.isFiller piece := by
  have empty : String.ofList piece = "" ↔ piece = [] := by
    rw [← String.ofList_nil, String.ofList_inj]
  have here : String.ofList piece = "." ↔ piece = ['.'] := by
    rw [← String.ofList_inj]
  rw [Bool.eq_iff_iff]
  simp [isStep, Path.isFiller, empty, here]

/-- Pieces without slashes come back, but for the fillers, where they are joined and cut again. -/
theorem filter_split_join {body : List (List Char)} (noSlash : ∀ piece ∈ body, '/' ∉ piece) :
    ((Text.split '/' (Text.join '/' body)).map String.ofList).filter isStep =
      (body.map String.ofList).filter isStep := by
  cases body with
  | nil => rfl
  | cons piece rest => rw [Text.split_join (List.cons_ne_nil _ _) noSlash]

/-- A path that is put together takes the steps that it is made of. -/
theorem filter_pieces_ofLayout {layout : Path.Layout}
    (noSlash : ∀ piece ∈ layout.body, '/' ∉ piece) :
    (pieces (Path.ofLayout layout)).filter isStep =
      (anchorPieces layout.anchor ++ layout.body.map String.ofList).filter isStep := by
  obtain ⟨anchor, body⟩ := layout
  cases anchor with
  | root =>
    rw [List.filter_append, ← filter_split_join noSlash]
    simp [pieces, Path.ofLayout, Text.split, anchorPieces, isStep]
  | here =>
    have withDot : ∀ piece ∈ ['.'] :: body, '/' ∉ piece :=
      List.forall_mem_cons.2 ⟨by decide, noSlash⟩
    simp [pieces, Path.ofLayout, Text.split_join (List.cons_ne_nil _ _) withDot, anchorPieces]
  | bare =>
    rw [List.filter_append, ← filter_split_join noSlash]
    simp [pieces, Path.ofLayout, anchorPieces]

/-- A path without an anchor is cut at its slashes and nothing else. -/
theorem body_of_bare (isBare : path.layout.anchor = .bare) :
    path.layout.body = Text.split '/' path.text.toList := by
  revert isBare
  unfold Path.layout
  split
  · exact fun never => by cases never
  · split
    · exact fun never => by cases never
    · exact fun _ => rfl

/-- A relative path does not begin with an empty piece, unless it is empty. -/
theorem eq_nil_of_bare {rest : List (List Char)} (isBare : path.layout.anchor = .bare)
    (body : path.layout.body = [] :: rest) : rest = [] := by
  have text := Text.join_split '/' path.text.toList
  rw [← body_of_bare isBare, body] at text
  have isRelative := isAbsolute_eq_layout path
  rw [isBare] at isRelative
  cases rest with
  | nil => rfl
  | cons next rest => simp [Path.isAbsolute, ← text, Text.join] at isRelative

/-- A path that is put together is absolute exactly if it is anchored at the root. -/
theorem isAbsolute_ofLayout {layout : Path.Layout} (noSlash : ∀ piece ∈ layout.body, '/' ∉ piece)
    (begins : layout.anchor = .bare → layout.body.head? ≠ some []) :
    (Path.ofLayout layout).isAbsolute = decide (layout.anchor = .root) := by
  obtain ⟨anchor, body⟩ := layout
  cases anchor with
  | root => simp [Path.isAbsolute, Path.ofLayout]
  | here => cases body <;> simp [Path.isAbsolute, Path.ofLayout, Text.join]
  | bare =>
    have begins := begins rfl
    rcases body with _ | ⟨_ | ⟨head, tail⟩, rest⟩
    · simp [Path.isAbsolute, Path.ofLayout, Text.join]
    · exact absurd rfl begins
    · have notSlash : head ≠ '/' := fun same =>
        noSlash _ List.mem_cons_self (same ▸ List.mem_cons_self)
      cases rest <;> simp [Path.isAbsolute, Path.ofLayout, Text.join, notSlash]

/-- What stands behind the last step of a path. A slash at its end leaves an empty piece. -/
def trailing (path : Path) : List (List Char) :=
  Text.takeEndWhile Path.isFiller path.layout.body

/-- What trails behind the last step is fillers. -/
theorem isFiller_of_mem_trailing {piece : List Char} (member : piece ∈ trailing path) :
    Path.isFiller piece = true :=
  Text.drops_of_mem_takeEndWhile member

/-- The name of a component is the text of its piece. -/
theorem component?_eq_name {piece : List Char} {text : String}
    (isName : Path.component? piece = some (.name text)) : piece = text.toList := by
  unfold Path.component? at isName
  split_ifs at isName
  · cases Option.some.inj isName
  · have text_eq := Path.Component.name.inj (Option.some.inj isName)
    rw [← text_eq, String.toList_ofList]

/-- A path whose last step is a name ends in the name, but for what names no step. -/
theorem exists_body_eq {text : String} (last : path.components.getLast? = some (.name text)) :
    ∃ front, path.layout.body = front ++ text.toList :: trailing path := by
  have whole :
      Text.dropEndWhile Path.isFiller path.layout.body ++ trailing path = path.layout.body :=
    Text.dropEndWhile_append_takeEndWhile _ _
  have noStep : (trailing path).filterMap Path.component? = [] := by
    rw [List.filterMap_eq_nil_iff]
    intro piece member
    rw [Path.component?, if_pos (isFiller_of_mem_trailing member)]
  rw [Path.components, ← whole, List.filterMap_append, noStep, List.append_nil] at last
  rcases List.eq_nil_or_concat (Text.dropEndWhile Path.isFiller path.layout.body) with
    isEmpty | ⟨front, piece, left⟩
  · rw [isEmpty] at last
    cases anchor : path.layout.anchor <;> simp [anchor, Path.Anchor.components] at last
  · rw [List.concat_eq_append] at left
    have stays := Text.stays_of_dropEndWhile left
    have isName : Path.component? piece = some (.name text) := by
      rw [left] at last
      by_cases up : piece = ['.', '.'] <;> simp_all [Path.component?]
    refine ⟨front, ?_⟩
    rw [← component?_eq_name isName, List.append_cons, ← left, whole]

/-- The parent of a path that ends in a step, but for what names no step. -/
theorem parent?_eq {front fillers : List (List Char)} {last : List Char}
    (body : path.layout.body = front ++ last :: fillers) (step : Path.isFiller last = false)
    (areFillers : ∀ piece ∈ fillers, Path.isFiller piece = true) :
    path.parent? =
      some (Path.ofLayout ⟨path.layout.anchor, Text.dropEndWhile Path.isFiller front⟩) := by
  have stays := Text.dropEndWhile_append_cons step areFillers front
  obtain ⟨head, tail, whole⟩ := List.exists_cons_of_ne_nil (List.concat_ne_nil last front)
  simp only [Path.parent?, body, stays]
  simp only [whole]
  rw [← whole, List.dropLast_concat]

/-- The end of a path: its last step, and what stands behind it. -/
def ending (last : String) (fillers : List (List Char)) : Path :=
  ⟨String.ofList (Text.join '/' (last.toList :: fillers))⟩

/-- A name is not empty with fillers behind it. -/
theorem text_ending_ne {last : String} (nonempty : last ≠ "") (fillers : List (List Char)) :
    (ending last fillers).text ≠ "" := by
  intro isEmpty
  have noText := congrArg String.toList isEmpty
  cases fillers <;> simp [ending, Text.join, nonempty] at noText

/-- A path goes on from its parent along its last step. -/
theorem goesOn_parent {name : Name} {parent : Path}
    (last : path.components.getLast? = some (.name name.text))
    (above : path.parent? = some parent) :
    GoesOn parent (ending name.text (trailing path)) path := by
  obtain ⟨front, body⟩ := exists_body_eq last
  rw [parent?_eq body (Path.isFiller_name name) fun _ => isFiller_of_mem_trailing] at above
  obtain rfl := Option.some.inj above
  have front_eq := Text.dropEndWhile_append_takeEndWhile Path.isFiller front
  have areFillers : ∀ piece ∈ Text.takeEndWhile Path.isFiller front, Path.isFiller piece = true :=
    fun _ => Text.drops_of_mem_takeEndWhile
  generalize Text.takeEndWhile Path.isFiller front = dropped at front_eq areFillers
  generalize Text.dropEndWhile Path.isFiller front = kept at front_eq
  subst front_eq
  have noSlash : ∀ piece ∈ path.layout.body, '/' ∉ piece := fun piece => slash_not_mem_body
  constructor
  · rw [isAbsolute_eq_layout, isAbsolute_ofLayout fun piece member => noSlash _ (by simp_all)]
    intro isBare begins
    obtain ⟨rest, rfl⟩ := List.head?_eq_some_iff.1 begins
    have empty := eq_nil_of_bare isBare body
    simp at empty
  · refine ⟨anchorPieces path.layout.anchor ++ (kept ++ dropped).map String.ofList, ?_, ?_⟩
    · have ends : pieces (ending name.text (trailing path)) =
          (name.text.toList :: trailing path).map String.ofList := by
        rw [pieces, ending, String.toList_ofList,
          Text.split_join (List.cons_ne_nil _ _) fun piece member => noSlash _ (by simp_all)]
      rw [pieces_eq_layout, ends, body]
      simp
    · have noStep : (dropped.map String.ofList).filter isStep = [] := by
        rw [List.filter_eq_nil_iff]
        intro piece member
        obtain ⟨filler, isDropped, rfl⟩ := List.mem_map.1 member
        rw [isStep_ofList, areFillers filler isDropped]
        decide
      rw [filter_pieces_ofLayout fun piece member => noSlash _ (by simp_all)]
      simp [noStep]

/-- What a path leads to that goes on from another is decided along the pieces of the other. -/
theorem GoesOn.walk_eq {tree : FileTree} {from' : Location} {links : Nat}
    (goesOn : GoesOn base next path) :
    tree.walk links (start from' path) (pieces path) =
      tree.walk links (start from' base) (pieces base ++ pieces next) := by
  obtain ⟨front, cut, steps⟩ := goesOn.pieces_eq
  rw [cut, walk_filter (pieces_ne_nil next), steps, ← walk_filter (pieces_ne_nil next),
    start, start, goesOn.isAbsolute_eq]

/-- A path that goes on from another holds a character that the other does not hold exactly if
the rest does. -/
theorem GoesOn.mem_text_iff {character : Char} (goesOn : GoesOn base next path)
    (notSlash : character ≠ '/') (notDot : character ≠ '.')
    (absent : character ∉ base.text.toList) :
    character ∈ path.text.toList ↔ character ∈ next.text.toList := by
  obtain ⟨front, cut, steps⟩ := goesOn.pieces_eq
  rw [FileTree.mem_text_iff notSlash] at absent
  rw [FileTree.mem_text_iff notSlash, FileTree.mem_text_iff notSlash, cut]
  constructor
  · rintro ⟨piece, member, inside⟩
    rcases List.mem_append.1 member with isFront | isNext
    · refine absurd ⟨piece, ?_, inside⟩ absent
      cases step : isStep piece with
      | true => exact (List.mem_filter.1 (steps ▸ List.mem_filter.2 ⟨isFront, step⟩)).1
      | false =>
        rcases isStep_eq_false_iff.1 step with rfl | rfl
        · simp at inside
        · exact absurd (by simpa using inside) notDot
    · exact ⟨piece, isNext, inside⟩
  · rintro ⟨piece, member, inside⟩
    exact ⟨piece, List.mem_append_right _ member, inside⟩

/-- A path that goes on to something is not empty. -/
theorem GoesOn.text_ne (goesOn : GoesOn base next path) (nonempty : next.text ≠ "") :
    path.text ≠ "" := by
  obtain ⟨front, cut, -⟩ := goesOn.pieces_eq
  rw [Ne, ← pieces_eq_singleton_iff, cut]
  intro whole
  cases front with
  | nil => exact nonempty (pieces_eq_singleton_iff.1 whole)
  | cons piece rest => exact pieces_ne_nil next (List.append_eq_nil_iff.1 (List.cons.inj whole).2).2

end FileTree

/-! ## Directories from which a path goes on -/

namespace Workspace

variable {workspace first second : Workspace} {base base' next path path' : Path}
  {folder : Location}

/-- A path leads to a location. The empty path, which the parent of a bare name is, stands for the
working directory. -/
def Denotes (workspace : Workspace) (path : Path) (folder : Location) : Prop :=
  if path.text = "" then workspace.directory = folder else workspace.locate path = .ok folder

/-- The limits of the system have no say in where a path leads: it is short enough, and it would
lead nowhere else if more links might be followed. -/
structure Clear (workspace : Workspace) (path : Path) : Prop where
  short : path.text.utf8ByteSize ≤ FileTree.pathLimit
  links : ∀ links, FileTree.linkLimit ≤ links →
    workspace.tree.walk links (FileTree.start workspace.directory path) (FileTree.pieces path) =
      workspace.tree.walk FileTree.linkLimit (FileTree.start workspace.directory path)
        (FileTree.pieces path)

/-- There is no zero character in a path that leads to a directory. -/
theorem Denotes.nul_not_mem (denotes : workspace.Denotes path folder) :
    '\x00' ∉ path.text.toList := by
  unfold Denotes at denotes
  split at denotes
  · rename_i isEmpty
    simp [isEmpty]
  · exact (FileTree.locate_eq_ok_iff.1 denotes).1

/-- A walk that goes on from a path goes on from where the path leads, with fewer links. -/
theorem Denotes.exists_used (denotes : workspace.Denotes base folder)
    (goesOn : FileTree.GoesOn base next path) :
    ∃ used, ∀ left,
      workspace.tree.walk (left + used) (FileTree.start workspace.directory path)
        (FileTree.pieces path) = workspace.tree.walk left folder (FileTree.pieces next) := by
  unfold Denotes at denotes
  split at denotes
  · rename_i isEmpty
    refine ⟨0, fun left => ?_⟩
    rw [goesOn.walk_eq, FileTree.pieces_eq_singleton_iff.2 isEmpty, List.singleton_append,
      FileTree.walk_filler rfl (FileTree.pieces_ne_nil next), FileTree.start, Path.isAbsolute,
      isEmpty, ← denotes]
    rfl
  · obtain ⟨-, -, led⟩ := FileTree.locate_eq_ok_iff.1 denotes
    obtain ⟨-, -, walked⟩ := FileTree.lead_eq_ok_iff.1 led
    obtain ⟨used, onward⟩ := FileTree.exists_used walked
    exact ⟨used, fun left => by rw [goesOn.walk_eq, onward]⟩

/-- A path that goes on from another starts somewhere exactly if directories lead to where the other
one leads. -/
theorem Denotes.starts_eq (denotes : workspace.Denotes base folder)
    (goesOn : FileTree.GoesOn base next path) :
    (path.isAbsolute || workspace.tree.isReached workspace.directory) =
      workspace.tree.isReached folder := by
  rw [goesOn.isAbsolute_eq]
  unfold Denotes at denotes
  split at denotes
  · rename_i isEmpty
    simp [Path.isAbsolute, isEmpty, denotes]
  · obtain ⟨-, -, led⟩ := FileTree.locate_eq_ok_iff.1 denotes
    obtain ⟨-, starts, -⟩ := FileTree.lead_eq_ok_iff.1 led
    rw [FileTree.isReached_iff.2 (FileTree.grounded_of_locate denotes)]
    simpa using starts

/-- Where the paths lead from which they go on, there two spellings of a path lead as well, or to
the same fault, whatever the working directory is. -/
theorem locate_eq_of_goesOn (sameTree : second.tree = first.tree)
    (denotes : first.Denotes base folder) (denotes' : second.Denotes base' folder)
    (goesOn : FileTree.GoesOn base next path) (goesOn' : FileTree.GoesOn base' next path')
    (nonempty : next.text ≠ "") (clear : first.Clear path) (clear' : second.Clear path') :
    second.locate path' = first.locate path := by
  have walked : second.tree.walk FileTree.linkLimit (FileTree.start second.directory path')
      (FileTree.pieces path') =
        first.tree.walk FileTree.linkLimit (FileTree.start first.directory path)
          (FileTree.pieces path) := by
    obtain ⟨used, onward⟩ := denotes.exists_used goesOn
    obtain ⟨used', onward'⟩ := denotes'.exists_used goesOn'
    -- With the links that each needs to come to the directory, both go on from there alike.
    rw [← clear.links (FileTree.linkLimit + used) (Nat.le_add_right _ _), onward,
      ← clear'.links (FileTree.linkLimit + used') (Nat.le_add_right _ _), onward', sameTree]
  have nul : ∀ {base path : Path} {workspace : Workspace}, workspace.Denotes base folder →
      FileTree.GoesOn base next path →
        path.text.toList.contains '\x00' = next.text.toList.contains '\x00' := by
    intro base path workspace denotes goesOn
    rw [Bool.eq_iff_iff, List.contains_iff_mem, List.contains_iff_mem]
    exact goesOn.mem_text_iff (by decide) (by decide) denotes.nul_not_mem
  unfold Workspace.locate FileTree.locate FileTree.lead
  rw [nul denotes goesOn, nul denotes' goesOn', denotes.starts_eq goesOn,
    denotes'.starts_eq goesOn', if_neg (goesOn.text_ne nonempty), if_neg (goesOn'.text_ne nonempty),
    if_neg (Nat.not_lt.2 clear.short), if_neg (Nat.not_lt.2 clear'.short), walked, sameTree]

/-! ## One place for two workspaces -/

/-- Two paths, each seen from its own workspace, lead to one place, and if a regular file is there,
they have one canonical path. -/
structure Meet (first second : Workspace) (here there : Path) : Prop where
  located : second.locate there = first.locate here
  canonical : first.isFile here = true → second.canonicalize there = first.canonicalize here

/-- An absolute path leads to the same place from everywhere. -/
theorem locate_eq_of_isAbsolute (sameTree : second.tree = first.tree)
    (isAbsolute : path.isAbsolute = true) : second.locate path = first.locate path := by
  unfold Workspace.locate FileTree.locate FileTree.lead FileTree.start
  rw [isAbsolute, sameTree]
  rfl

/-- An absolute path has the same canonical path from everywhere. -/
theorem canonicalize_eq_of_isAbsolute (sameTree : second.tree = first.tree)
    (isAbsolute : path.isAbsolute = true) : second.canonicalize path = first.canonicalize path := by
  unfold Workspace.canonicalize FileTree.canonicalize FileTree.lead FileTree.start
  rw [isAbsolute, sameTree]
  rfl

end Workspace

end LiveShader
