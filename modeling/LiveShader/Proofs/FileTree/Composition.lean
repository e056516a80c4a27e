import Mathlib.Tactic.SplitIfs
import LiveShader.Proofs.FileTree.Walk

/-!
# Walks along composed paths

A walk along pieces and more pieces is a walk along the first and then one along the others,
with the links that are left. Pieces that take no step do not count, unless they come last.
So what a path leads to that goes on from another is decided where the other one leads, as
long as the walk does not run out of links.
-/

namespace LiveShader

namespace FileTree

variable {tree : FileTree} {links : Nat} {current goal : Location} {piece : String}
  {first second rest : List String}

/-- A piece that takes a step, if only upwards. -/
def isStep (piece : String) : Bool :=
  piece != "" && piece != "."

/-- The pieces that take no step. -/
theorem isStep_eq_false_iff : isStep piece = false ↔ piece = "" ∨ piece = "." := by
  rw [isStep, Bool.and_eq_false_iff]
  simp

/-! ## Steps of a walk -/

/-- The walk of the system is admitted to all places. -/
theorem walk_eq (tree : FileTree) (links : Nat) :
    tree.walk links = tree.walkWith anywhere (tree.beyondLink anywhere links) :=
  tree.walkBy_eq anywhere links

/-- A walk goes on in the same way along pieces that it cannot tell apart. -/
theorem walk_cons_congr (same : ∀ place, tree.walk links place first = tree.walk links place second)
    (followed : ∀ place front,
      tree.beyondLink anywhere links place (front ++ first) =
        tree.beyondLink anywhere links place (front ++ second)) :
    tree.walk links current (piece :: first) = tree.walk links current (piece :: second) := by
  rw [walk_eq] at same ⊢
  simp only [walkWith, anywhere, if_true, same, followed]

/-- A piece that takes no step does not count in front of another one. -/
theorem walk_filler (isFiller : isStep piece = false) (more : rest ≠ []) :
    tree.walk links current (piece :: rest) = tree.walk links current rest := by
  obtain ⟨next, rest, rfl⟩ := List.exists_cons_of_ne_nil more
  rw [walk_eq]
  cases here : tree.entryAt? current with
  | none => simp [walkWith, here]
  | some entry =>
    cases entry with
    | directory => exact walkWith_stay here (isStep_eq_false_iff.1 isFiller)
    | file | link => simp [walkWith, here]

/-- Filtering a part first makes no difference to the filtered whole. -/
theorem filter_isStep_append (front : List String) :
    (front ++ first.filter isStep).filter isStep = (front ++ first).filter isStep := by
  rw [List.filter_append, List.filter_append, List.filter_filter]
  simp

/-- In front of other pieces only those count that take a step, if that is so behind links. -/
theorem walk_filter_of_follow (more : rest ≠ [])
    (follows : ∀ place front, tree.beyondLink anywhere links place (front ++ rest) =
      tree.beyondLink anywhere links place (front.filter isStep ++ rest)) :
    tree.walk links current (first ++ rest) =
      tree.walk links current (first.filter isStep ++ rest) := by
  induction first generalizing current with
  | nil => rfl
  | cons piece first inductionHypothesis =>
    cases step : isStep piece with
    | false =>
      rw [List.filter_cons_of_neg (by simp [step]), List.cons_append,
        walk_filler step (by simp [more])]
      exact inductionHypothesis
    | true =>
      rw [List.filter_cons_of_pos step, List.cons_append, List.cons_append]
      refine walk_cons_congr (fun _ => inductionHypothesis) fun place front => ?_
      -- Behind a link the pieces of its target stand in front, which may be any.
      rw [← List.append_assoc, ← List.append_assoc, follows, follows _ (front ++ _),
        filter_isStep_append]

/-- In front of other pieces only those count that take a step. -/
theorem walk_filter (more : rest ≠ []) :
    tree.walk links current (first ++ rest) =
      tree.walk links current (first.filter isStep ++ rest) := by
  induction links generalizing current first with
  | zero => exact walk_filter_of_follow more fun _ _ => rfl
  | succ links fewer => exact walk_filter_of_follow more fun _ _ => fewer

/-! ## Links that are left -/

/-- A walk goes on from where its first pieces lead, if that is so behind links. -/
theorem exists_used_of_walks {follow : Location → List String → Except Fault Location}
    (walks : tree.Walks anywhere follow goal current first)
    (follows : ∀ place pieces, follow place pieces = .ok goal → ∃ used, ∀ left rest,
      tree.walk (left + used) place (pieces ++ rest) = tree.walk left goal rest) :
    ∃ used, ∀ left rest,
      tree.walk (left + used) current (first ++ rest) = tree.walk left goal rest := by
  induction walks with
  | arrived => exact ⟨0, fun _ _ => rfl⟩
  | stay here isFiller onward inductionHypothesis =>
    obtain ⟨used, onward⟩ := inductionHypothesis
    refine ⟨used, fun left rest => ?_⟩
    rw [← onward left rest, walk_eq]
    exact walkWith_stay here isFiller
  | up here onward inductionHypothesis =>
    obtain ⟨used, onward⟩ := inductionHypothesis
    refine ⟨used, fun left rest => ?_⟩
    rw [← onward left rest, walk_eq]
    exact walkWith_up here
  | cross here admitted isLink followed =>
    -- The link that is crossed is one of those that are used.
    obtain ⟨used, onward⟩ := follows _ _ followed
    refine ⟨used + 1, fun left rest => ?_⟩
    rw [← onward left rest, List.cons_append, ← Nat.add_assoc, walk_eq,
      walkWith_link here rfl isLink, List.append_assoc]
    rfl
  | enter here admitted found notLink ahead onward inductionHypothesis =>
    obtain ⟨used, onward⟩ := inductionHypothesis
    refine ⟨used, fun left rest => ?_⟩
    rw [← onward left rest, List.cons_append, walk_eq]
    exact walkWith_enter here rfl found notLink rfl

/-- A walk goes on from where its first pieces lead, with the links that are left. -/
theorem exists_used (walked : tree.walk links current first = .ok goal) :
    ∃ used, ∀ left rest,
      tree.walk (left + used) current (first ++ rest) = tree.walk left goal rest := by
  induction links generalizing current first with
  | zero =>
    refine exists_used_of_walks (walks_of_walkWith walked) fun place pieces followed => ?_
    cases followed
  | succ links fewer =>
    refine exists_used_of_walks (walks_of_walkWith walked) fun place pieces followed => ?_
    exact fewer followed

end FileTree

end LiveShader
