import LiveShader.Proofs.FileTree.Canonical

/-!
# The course of a walk

`Walks` says how a walk that ends well goes on from piece to piece, over places that it is
admitted to. What one step keeps, a walk keeps (`KeptByWalks`). A walk that starts at a place
without links ends at one, and the canonical path of such a place leads nowhere else.
-/

namespace LiveShader

/-- The only text with a name is its own. -/
theorem Name.ofText?_eq_some_iff {text : String} {name : Name} :
    Name.ofText? text = some name ↔ text = name.text := by
  constructor
  · intro isName
    unfold Name.ofText? at isName
    split at isName
    · exact congrArg Name.text (Option.some.inj isName)
    · cases isName
  · rintro rfl
    exact Name.ofText?_text name

/-- Names are told apart by their texts. -/
theorem Name.text_injective : Function.Injective Name.text := by
  intro left right same
  have found := Name.ofText?_text left
  rw [same, Name.ofText?_text] at found
  exact (Option.some.inj found).symm

namespace FileTree

/-- How a walk goes on from a location over pieces to where it ends. -/
inductive Walks (tree : FileTree) (admits : Location → List String → Bool)
    (follow : Location → List String → Except Fault Location)
    (goal : Location) : Location → List String → Prop where
  | arrived : Walks tree admits follow goal goal []
  | stay {current piece rest} (here : tree.entryAt? current = some .directory)
      (isFiller : piece = "" ∨ piece = ".") (onward : Walks tree admits follow goal current rest) :
      Walks tree admits follow goal current (piece :: rest)
  | up {current rest} (here : tree.entryAt? current = some .directory)
      (onward : Walks tree admits follow goal current.dropLast rest) :
      Walks tree admits follow goal current (".." :: rest)
  | cross {current rest target} {name : Name} (here : tree.entryAt? current = some .directory)
      (admitted : admits (current ++ [name]) [] = true)
      (isLink : tree.entryAt? (current ++ [name]) = some (.link target))
      (followed : follow (start current target) (pieces target ++ rest) = .ok goal) :
      Walks tree admits follow goal current (name.text :: rest)
  | enter {current rest entry} {name : Name} (here : tree.entryAt? current = some .directory)
      (admitted : admits (current ++ [name]) [] = true)
      (found : tree.entryAt? (current ++ [name]) = some entry)
      (notLink : ∀ target, entry ≠ .link target)
      (ahead : admits (current ++ [name]) rest = true)
      (onward : Walks tree admits follow goal (current ++ [name]) rest) :
      Walks tree admits follow goal current (name.text :: rest)

variable {tree : FileTree} {admits : Location → List String → Bool}
  {follow : Location → List String → Except Fault Location}
  {current goal : Location} {pieces rest : List String} {piece : String}

/-! ## Single steps -/

/-- A piece that takes no step leaves a walk where it is. -/
theorem walkWith_stay (here : tree.entryAt? current = some .directory)
    (isFiller : piece = "" ∨ piece = ".") :
    tree.walkWith admits follow current (piece :: rest) =
      tree.walkWith admits follow current rest := by
  simp [walkWith, here, isFiller]

/-- Upwards a walk goes to the directory above. -/
theorem walkWith_up (here : tree.entryAt? current = some .directory) :
    tree.walkWith admits follow current (".." :: rest) =
      tree.walkWith admits follow current.dropLast rest := by
  simp [walkWith, here]

/-- What is under a name decides how a walk goes on there, if it is admitted. -/
theorem walkWith_name (here : tree.entryAt? current = some .directory) (name : Name) :
    tree.walkWith admits follow current (name.text :: rest) =
      if admits (current ++ [name]) [] then
        match tree.entryAt? (current ++ [name]) with
        | none => .error .missing
        | some (.link target) => follow (start current target) (FileTree.pieces target ++ rest)
        | some _ =>
          if admits (current ++ [name]) rest then
            tree.walkWith admits follow (current ++ [name]) rest
          else .error .nameTooLong
      else .error .nameTooLong := by
  obtain ⟨nonempty, notHere, notUp⟩ := name.text_ne
  cases found : tree.entryAt? (current ++ [name]) with
  | none => simp [walkWith, here, nonempty, notHere, notUp, Nat.not_lt.2 name.short, found]
  | some entry =>
    cases entry <;>
      simp [walkWith, here, nonempty, notHere, notUp, Nat.not_lt.2 name.short, found]

/-- A walk crosses a link where it is admitted. -/
theorem walkWith_link (here : tree.entryAt? current = some .directory) {name : Name} {target : Path}
    (admitted : admits (current ++ [name]) [] = true)
    (isLink : tree.entryAt? (current ++ [name]) = some (.link target)) :
    tree.walkWith admits follow current (name.text :: rest) =
      follow (start current target) (FileTree.pieces target ++ rest) := by
  rw [walkWith_name here, if_pos admitted, isLink]

/-- A walk enters what is no link where it is admitted. -/
theorem walkWith_enter (here : tree.entryAt? current = some .directory) {name : Name}
    {entry : Entry} (admitted : admits (current ++ [name]) [] = true)
    (found : tree.entryAt? (current ++ [name]) = some entry)
    (notLink : ∀ target, entry ≠ .link target) (ahead : admits (current ++ [name]) rest = true) :
    tree.walkWith admits follow current (name.text :: rest) =
      tree.walkWith admits follow (current ++ [name]) rest := by
  rw [walkWith_name here, if_pos admitted, found]
  cases entry with
  | link target => exact absurd rfl (notLink target)
  | file | directory => exact if_pos ahead

/-- A walk can go on only from a directory. -/
theorem directory_of_walkWith_cons
    (walked : tree.walkWith admits follow current (piece :: rest) = .ok goal) :
    tree.entryAt? current = some .directory := by
  unfold walkWith at walked
  split at walked
  · cases walked
  · assumption
  · cases walked

/-- A piece along which a walk goes on is a name, unless it takes no step or goes up. -/
theorem exists_name_of_walkWith
    (walked : tree.walkWith admits follow current (piece :: rest) = .ok goal)
    (noFiller : ¬(piece = "" ∨ piece = ".")) (notUp : piece ≠ "..") :
    ∃ name : Name, piece = name.text := by
  have here := directory_of_walkWith_cons walked
  simp only [walkWith, here, if_neg noFiller, if_neg notUp] at walked
  split at walked
  · cases walked
  · cases isName : Name.ofText? piece with
    | none => simp [isName] at walked
    | some name => exact ⟨name, Name.ofText?_eq_some_iff.1 isName⟩

/-- A walk that ends well has a course. -/
theorem walks_of_walkWith (walked : tree.walkWith admits follow current pieces = .ok goal) :
    tree.Walks admits follow goal current pieces := by
  induction pieces generalizing current with
  | nil =>
    obtain rfl := Except.ok.inj walked
    exact .arrived
  | cons piece rest inductionHypothesis =>
    have here := directory_of_walkWith_cons walked
    by_cases isFiller : piece = "" ∨ piece = "."
    · rw [walkWith_stay here isFiller] at walked
      exact .stay here isFiller (inductionHypothesis walked)
    · by_cases isUp : piece = ".."
      · subst isUp
        rw [walkWith_up here] at walked
        exact .up here (inductionHypothesis walked)
      · obtain ⟨name, rfl⟩ := exists_name_of_walkWith walked isFiller isUp
        rw [walkWith_name here] at walked
        split at walked
        · rename_i admitted
          cases found : tree.entryAt? (current ++ [name]) with
          | none => simp [found] at walked
          | some entry =>
            rw [found] at walked
            cases entry with
            | link target => exact .cross here admitted found walked
            | file | directory =>
              simp only at walked
              split at walked
              · rename_i ahead
                exact .enter here admitted found (by simp) ahead (inductionHypothesis walked)
              · cases walked
        · cases walked

/-! ## Walks over links -/

/-- Where a walk goes on that crosses a link. -/
def beyondLink (tree : FileTree) (admits : Location → List String → Bool) :
    Nat → Location → List String → Except Fault Location
  | 0 => fun _ _ => .error .tooManyLinks
  | links + 1 => tree.walkBy admits links

/-- A walk over links is a walk that goes on beyond them. -/
theorem walkBy_eq (tree : FileTree) (admits : Location → List String → Bool) (links : Nat) :
    tree.walkBy admits links = tree.walkWith admits (tree.beyondLink admits links) := by
  cases links <;> rfl

/-- There is a piece in every path. -/
theorem pieces_ne_nil (path : Path) : FileTree.pieces path ≠ [] := by
  simp [FileTree.pieces, Text.split_ne_nil]

/-- A path leads somewhere exactly if it is not empty, starts somewhere and is walked to its
end. -/
theorem lead_eq_ok_iff {walk : Location → List String → Except Fault Location} {base : Location}
    {path : Path} :
    tree.lead walk base path = .ok goal ↔
      path.text ≠ "" ∧ (path.isAbsolute = true ∨ tree.isReached base = true) ∧
        walk (start base path) (FileTree.pieces path) = .ok goal := by
  by_cases isEmpty : path.text = ""
  · simp [lead, isEmpty]
  · by_cases starts : path.isAbsolute = true ∨ tree.isReached base = true
    · simp [lead, isEmpty, starts]
    · simp [lead, isEmpty, starts]

/-- A path leads somewhere exactly if it can be asked for and is walked to its end. -/
theorem locate_eq_ok_iff {base : Location} {path : Path} :
    tree.locate base path = .ok goal ↔
      '\x00' ∉ path.text.toList ∧ path.text.utf8ByteSize ≤ pathLimit ∧
        tree.lead (tree.walk linkLimit) base path = .ok goal := by
  by_cases hasNul : '\x00' ∈ path.text.toList
  · simp [locate, hasNul]
  · rcases Nat.lt_or_ge pathLimit path.text.utf8ByteSize with long | short
    · simp [locate, hasNul, long, Nat.not_le.2 long]
    · simp [locate, hasNul, short, Nat.not_lt.2 short]

/-- A path has a canonical one exactly if it is walked to its end over places that can be asked
for. -/
theorem canonicalize_eq_ok_iff {base : Location} {path : Path} :
    tree.canonicalize base path = .ok goal ↔
      '\x00' ∉ path.text.toList ∧
        tree.lead (tree.walkBy isNameable linkLimit) base path = .ok goal := by
  by_cases hasNul : '\x00' ∈ path.text.toList <;> simp [canonicalize, hasNul]

/-! ## What walks keep -/

/-- Walks keep a property of places: the root has it, and each place has it to which one
step leads from a directory that has it. -/
structure KeptByWalks (tree : FileTree) (admits : Location → List String → Bool)
    (holds : Location → Prop) : Prop where
  root : holds []
  up : ∀ {current}, tree.entryAt? current = some .directory → holds current →
    holds current.dropLast
  enter : ∀ {current entry} {name : Name}, tree.entryAt? current = some .directory →
    admits (current ++ [name]) [] = true → tree.entryAt? (current ++ [name]) = some entry →
      (∀ target, entry ≠ .link target) → holds current → holds (current ++ [name])

namespace KeptByWalks

variable {holds : Location → Prop}

/-- A path starts at a place with the property, if `base` has it. -/
theorem start (kept : tree.KeptByWalks admits holds) (held : holds current) (path : Path) :
    holds (start current path) := by
  unfold FileTree.start
  split
  · exact kept.root
  · exact held

/-- A walk keeps the property, if it is kept behind links. -/
theorem of_walks (kept : tree.KeptByWalks admits holds)
    (follows : ∀ current pieces, holds current → follow current pieces = .ok goal → holds goal)
    (walks : tree.Walks admits follow goal current pieces) (held : holds current) :
    holds goal := by
  induction walks with
  | arrived => exact held
  | stay here isFiller onward inductionHypothesis => exact inductionHypothesis held
  | up here onward inductionHypothesis => exact inductionHypothesis (kept.up here held)
  | cross here admitted isLink followed => exact follows _ _ (kept.start held _) followed
  | enter here admitted found notLink ahead onward inductionHypothesis =>
    exact inductionHypothesis (kept.enter here admitted found notLink held)

/-- A walk from a place with the property ends at one. -/
theorem of_walkBy {links : Nat} (kept : tree.KeptByWalks admits holds) (held : holds current)
    (walked : tree.walkBy admits links current pieces = .ok goal) : holds goal := by
  induction links generalizing current pieces with
  | zero =>
    refine kept.of_walks (fun _ _ _ followed => ?_) (walks_of_walkWith walked) held
    cases followed
  | succ links inductionHypothesis =>
    exact kept.of_walks (fun _ _ held followed => inductionHypothesis held followed)
      (walks_of_walkWith walked) held

/-- What a path leads to has the property, if the working directory has it, as far as it is a
directory that can be reached. -/
theorem of_lead {links : Nat} {base : Location} {path : Path}
    (kept : tree.KeptByWalks admits holds)
    (held : tree.isReached base = true → tree.entryAt? base = some .directory → holds base)
    (led : tree.lead (tree.walkBy admits links) base path = .ok goal) : holds goal := by
  obtain ⟨-, starts, walked⟩ := lead_eq_ok_iff.1 led
  refine kept.of_walkBy ?_ walked
  obtain ⟨piece, rest, pieces_eq⟩ := List.exists_cons_of_ne_nil (pieces_ne_nil path)
  rw [pieces_eq, walkBy_eq] at walked
  have here := directory_of_walkWith_cons walked
  unfold FileTree.start at here ⊢
  split at here
  · rename_i isAbsolute
    rw [if_pos isAbsolute]
    exact kept.root
  · rename_i isRelative
    rw [if_neg isRelative]
    exact held (starts.resolve_left isRelative) here

end KeptByWalks

/-! ## Grounded places -/

/-- Above a location there are directories alone, as far up as the root. -/
def Grounded (tree : FileTree) (location : Location) : Prop :=
  ∀ above, above <+: location → above ≠ location → tree.entryAt? above = some .directory

/-- Nothing is above the root. -/
theorem grounded_root : tree.Grounded [] :=
  fun _ isAbove differ => absurd (List.prefix_nil.1 isAbove) differ

/-- What is above a grounded place is grounded. -/
theorem Grounded.dropLast (grounded : tree.Grounded current) :
    tree.Grounded current.dropLast := by
  intro above isAbove differ
  refine grounded above (isAbove.trans (List.dropLast_prefix current)) ?_
  rintro rfl
  have shorter := isAbove.length_le
  rw [List.length_dropLast] at shorter
  have isRoot : above = [] := List.length_eq_zero_iff.1 (by omega)
  exact differ (by simp [isRoot])

/-- What is in a grounded directory is grounded. -/
theorem Grounded.enter (grounded : tree.Grounded current)
    (here : tree.entryAt? current = some .directory) (name : Name) :
    tree.Grounded (current ++ [name]) := by
  intro above isAbove differ
  rcases List.prefix_concat_iff.1 isAbove with same | isAbove
  · exact absurd same differ
  · by_cases isHere : above = current
    · exact isHere ▸ here
    · exact grounded above isAbove isHere

/-- A walk from a grounded place ends at one. -/
theorem keptByWalks_grounded (tree : FileTree) (admits : Location → List String → Bool) :
    tree.KeptByWalks admits tree.Grounded where
  root := grounded_root
  up _ grounded := grounded.dropLast
  enter here _ _ _ grounded := grounded.enter here _

/-- A directory is at a location exactly if that is what is found there. -/
theorem isDirectoryAt_iff : tree.isDirectoryAt current = true ↔
    tree.entryAt? current = some .directory := by
  unfold isDirectoryAt
  split <;> simp_all

/-- A location is reached exactly if it is grounded. -/
theorem isReached_iff : tree.isReached current = true ↔ tree.Grounded current := by
  rw [isReached, List.all_eq_true]
  constructor
  · intro listed above isAbove differ
    have shorter : above.length < current.length := by
      refine Nat.lt_of_le_of_ne isAbove.length_le fun same => differ ?_
      exact isAbove.eq_of_length same
    have here := listed above.length (List.mem_range.2 shorter)
    rw [← List.prefix_iff_eq_take.1 isAbove] at here
    exact isDirectoryAt_iff.1 here
  · intro grounded depth inside
    refine isDirectoryAt_iff.2 (grounded _ (List.take_prefix depth current) fun same => ?_)
    have lengths := congrArg List.length same
    rw [List.length_take] at lengths
    have less := List.mem_range.1 inside
    omega

/-- What a path leads to is grounded. -/
theorem grounded_of_locate {base : Location} {path : Path}
    (located : tree.locate base path = .ok goal) : tree.Grounded goal :=
  (tree.keptByWalks_grounded anywhere).of_lead (fun isReached _ => isReached_iff.1 isReached)
    (locate_eq_ok_iff.1 located).2.2

/-! ## Canonical paths -/

/-- No link is on the way down from the root to a location, nor at the location. -/
def LinkFree (tree : FileTree) (location : Location) : Prop :=
  ∀ above, above <+: location → ∀ target, tree.entryAt? above ≠ some (.link target)

/-- On the way to a grounded place that is no link there are none. -/
theorem Grounded.linkFree (grounded : tree.Grounded current)
    (notLink : ∀ target, tree.entryAt? current ≠ some (.link target)) : tree.LinkFree current := by
  intro above isAbove target
  by_cases isHere : above = current
  · exact isHere ▸ notLink target
  · rw [grounded above isAbove isHere]
    simp

/-- From the root names lead to the place that they spell, unless a link is on the way. -/
theorem Walks.eq_of_names {names : List Name}
    (walks : tree.Walks admits follow goal current (names.map Name.text))
    (linkFree : tree.LinkFree (current ++ names)) : goal = current ++ names := by
  induction names generalizing current with
  | nil =>
    cases walks with
    | arrived => simp
  | cons name rest inductionHypothesis =>
    obtain ⟨nonempty, notHere, notUp⟩ := name.text_ne
    have grouped : current ++ name :: rest = current ++ [name] ++ rest := by simp
    generalize pieces_eq : (name :: rest).map Name.text = pieces at walks
    cases walks with
    | arrived => cases pieces_eq
    | stay here isFiller onward =>
      obtain ⟨rfl, -⟩ := List.cons.inj pieces_eq
      exact absurd isFiller (by simp [nonempty, notHere])
    | up here onward => exact absurd (List.cons.inj pieces_eq).1 notUp
    | cross here admitted isLink followed =>
      obtain rfl := Name.text_injective (List.cons.inj pieces_eq).1
      exact absurd isLink (linkFree _ (by simp) _)
    | enter here admitted found notLink ahead onward =>
      obtain ⟨same, rfl⟩ := List.cons.inj pieces_eq
      obtain rfl := Name.text_injective same
      rw [grouped]
      exact inductionHypothesis onward (grouped ▸ linkFree)

/-- A canonical path starts at the root. -/
@[simp] theorem start_path (base location : Location) : start base location.path = [] := by
  simp [start]

/-- The pieces of a canonical path behind its first slash. -/
theorem pieces_path (location : Location) :
    FileTree.pieces location.path =
      "" :: if location = [] then [""] else location.map Name.text := by
  have cut : Text.split '/' location.path.text.toList = [] ::
      Text.split '/' (Text.join '/' (location.map fun name => name.text.toList)) := by
    simp [Location.path, Text.split]
  rw [FileTree.pieces, cut, Location.split_names]
  split
  · rfl
  · simp [Function.comp_def]

/-- Without links on the way a canonical path leads nowhere but to its location. -/
theorem eq_of_locate_path {base location : Location} (linkFree : tree.LinkFree location)
    (located : tree.locate base location.path = .ok goal) : goal = location := by
  obtain ⟨-, -, led⟩ := locate_eq_ok_iff.1 located
  obtain ⟨-, -, walked⟩ := lead_eq_ok_iff.1 led
  have atRoot : tree.entryAt? [] = some .directory := rfl
  rw [start_path, pieces_path, walk, walkBy_eq, walkWith_stay atRoot (.inl rfl)] at walked
  split at walked
  · rename_i isRoot
    rw [walkWith_stay atRoot (.inl rfl)] at walked
    exact (Except.ok.inj walked).symm.trans isRoot.symm
  · exact (walks_of_walkWith walked).eq_of_names linkFree

end FileTree

end LiveShader
