import LiveShader.Proofs.FileTree.Spelling
import LiveShader.Proofs.Resolution.Unfolding

/-!
# Resolutions from different directories

Only for the entry does it matter from which working directory a resolution looks: what the
expansion of a file looks up is named from the root. So where two entries meet at one place,
their resolutions are one, but for the name of an entry file that is missing or too long.
-/

namespace LiveShader

/-- A directive names its target from the root. -/
theorem Location.isAbsolute_beside (location : Location) (target : String) :
    (location.beside target).isAbsolute = true := by
  cases isRelative : Path.isAbsolute ⟨target⟩ with
  | true =>
    rw [beside, Path.join, if_pos isRelative]
    exact isRelative
  | false =>
    rw [beside, (FileTree.goesOn_join isRelative).isAbsolute_eq]
    exact isAbsolute_path _

namespace Workspace

variable {first second : Workspace} {path path' : Path} {limits : ResolutionLimits}

/-- Paths that lead to one place lead to the same file. -/
theorem regular?_eq_of_locate (sameTree : second.tree = first.tree)
    (same : second.locate path' = first.locate path) :
    second.regular? path' = first.regular? path := by
  rw [regular?, regular?, same, sameTree]

/-- Paths that lead to one place have the same time. -/
theorem modified?_eq_of_locate (sameTree : second.tree = first.tree)
    (same : second.locate path' = first.locate path) :
    second.modified? path' = first.modified? path := by
  rw [modified?, modified?, same, sameTree]

/-- The expansion of a line is the same from everywhere. -/
theorem expandLine_eq (sameTree : second.tree = first.tree)
    (descend : Location → File → Draft → Except Abort Draft) (location : Location) (index : Nat)
    (draft : Draft) (numbered : String × Nat) :
    second.expandLine descend location index draft numbered =
      first.expandLine descend location index draft numbered := by
  have same : ∀ target,
      second.locate (location.beside target) = first.locate (location.beside target) :=
    fun target => locate_eq_of_isAbsolute sameTree (location.isAbsolute_beside target)
  have named : ∀ target,
      second.canonicalize (location.beside target) = first.canonicalize (location.beside target) :=
    fun target => canonicalize_eq_of_isAbsolute sameTree (location.isAbsolute_beside target)
  simp only [Location.beside] at same named
  simp only [expandLine, stamp, modified?_eq_of_locate sameTree (same _),
    regular?_eq_of_locate sameTree (same _), named]

/-- The expansion of a file is the same from everywhere. -/
theorem expand_eq (sameTree : second.tree = first.tree) (limits : ResolutionLimits)
    (nesting : Nat) : second.expand limits nesting = first.expand limits nesting := by
  induction nesting with
  | zero => rfl
  | succ nesting inductionHypothesis =>
    -- The files below are expanded with less nesting, and each line looks up from the root.
    funext location file draft
    have lines_eq : ∀ index, second.expandLine (second.expand limits nesting) location index =
        first.expandLine (first.expand limits nesting) location index := fun index => by
      funext draft numbered
      rw [inductionHypothesis, expandLine_eq sameTree]
    rw [expand_succ, expand_succ, lines_eq]

end Workspace

end LiveShader
