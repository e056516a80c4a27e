import LiveShader.Proofs.FileTree.Links
import LiveShader.Proofs.Resolution.IncludeGraph
import LiveShader.Proofs.Shader.Calls
import LiveShader.Proofs.Watcher.HotReload

/-!
# Links that lead elsewhere

The stamps of a loaded shader are those of canonical paths, so a change of links alone is
never noticed, also where the same entry would resolve to something else now. It resolves
to the same while each path that the resolution followed has the canonical path that it had.
-/

namespace LiveShader

namespace Workspace

variable {before after : Workspace} {limits : ResolutionLimits} {nesting index : Nat}
  {location : Location} {opened : List Location} {remaining : List (String × Nat)}
  {emissions : List Emission} {halt : Option Halt} {entry : Path} {resolution : Resolution}

/-- At both moments the directives of a file have the same canonical paths. -/
def SteadyBelow (before after : Workspace) (place : Location) : Prop :=
  ∀ text ∈ before.sourceLines place.path, ∀ target,
    SourceLine.classify text = .inclusion target →
      after.canonicalize (place.beside target) = before.canonicalize (place.beside target)

/-- Where nothing but links changed, and the directives of all files that an expansion went
through have the same canonical paths, the expansion finishes in the same way. -/
theorem Unfolds.relinked
    (unfolds : before.Unfolds limits nesting location index opened remaining emissions halt)
    (relinked : before.Relinked after) (finished : halt = none)
    (lines : ∀ numbered ∈ remaining, numbered.1 ∈ before.sourceLines location.path)
    (steadyHere : before.SteadyBelow after location)
    (steady : ∀ place ∈ Emission.locations emissions, before.SteadyBelow after place) :
    after.Unfolds limits nesting location index opened remaining emissions none := by
  induction unfolds with
  | done => exact .done
  | code isCode later inductionHypothesis =>
    have rest := (List.forall_mem_cons.1 lines).2
    exact .code isCode (inductionHypothesis finished rest steadyHere steady)
  | repeated directive leads known later inductionHypothesis =>
    obtain ⟨here, rest⟩ := List.forall_mem_cons.1 lines
    have leadsNow := relinked.leadsTo leads (steadyHere _ here _ directive)
    exact .repeated directive leadsNow known (inductionHypothesis finished rest steadyHere steady)
  | expanded directive leads fresh room isText inside later insideHypothesis laterHypothesis =>
    obtain ⟨here, rest⟩ := List.forall_mem_cons.1 lines
    simp only [List.cons_append, Emission.locations_opened, Emission.locations_append,
      List.forall_mem_cons, List.forall_mem_append] at steady
    obtain ⟨steadyPlace, steadyInside, steadyLater⟩ := steady
    have leadsNow := relinked.leadsTo leads (steadyHere _ here _ directive)
    have linesInside := numberedLines_subset leads.present isText
    exact .expanded directive leadsNow fresh room isText
      (insideHypothesis rfl linesInside steadyPlace steadyInside)
      (laterHypothesis finished rest steadyHere steadyLater)
  | malformed | missing | overlong | tooDeep | tooMany | unreadable | stopped => cases finished

/-- The paths that a resolution followed: that of the entry, and those that the directives
of its files name. -/
inductive Follows (workspace : Workspace) (entry : Path) (resolution : Resolution) :
    Path → Prop where
  | entry : Follows workspace entry resolution entry
  | directive {contributor location text target}
      (recorded : contributor ∈ resolution.provenance.contributors)
      (isPlace : contributor.path = Location.path location)
      (isLine : text ∈ workspace.sourceLines contributor.path)
      (directive : SourceLine.classify text = .inclusion target) :
      Follows workspace entry resolution (location.beside target)

/-- While each path that a resolution followed has the canonical path that it had, links may
change: the entry resolves to the same. -/
theorem Relinked.resolve_eq (relinked : before.Relinked after)
    (resolved : before.resolve entry limits = .ok resolution)
    (steady : ∀ path, before.Follows entry resolution path →
      after.canonicalize path = before.canonicalize path) :
    after.resolve entry limits = .ok resolution := by
  obtain ⟨course⟩ := resolve_ok_iff.1 resolved
  have steadyBelow : ∀ place ∈ course.opened, before.SteadyBelow after place := by
    intro place isOpened text isLine target directive
    obtain ⟨position, atPosition⟩ := List.getElem?_of_mem isOpened
    obtain ⟨contributor, recorded, path_eq⟩ := course.contributor_of_opened atPosition
    exact steady _ (.directive (List.mem_of_getElem? recorded) path_eq (path_eq ▸ isLine) directive)
  obtain ⟨steadyEntry, steadyInside⟩ := List.forall_mem_cons.1 steadyBelow
  have leadsNow := relinked.leadsTo course.leads (steady entry .entry)
  have unfoldsNow := course.unfolds.relinked relinked rfl
    (numberedLines_subset course.file?_location course.isText) steadyEntry steadyInside
  exact resolve_ok_iff.2 ⟨⟨course.location, course.file, course.text, course.emissions, leadsNow,
    course.room, course.isText, unfoldsNow, course.resolution_eq⟩⟩

/-- Links have no say in the stamps of a resolution that succeeded. -/
theorem Relinked.isStale_eq (relinked : before.Relinked after)
    (resolved : before.resolve entry limits = .ok resolution) :
    ∀ stamp ∈ resolution.provenance.stamps, stamp.isStale after = stamp.isStale before := by
  obtain ⟨course⟩ := resolve_ok_iff.1 resolved
  have leads : ∀ place ∈ course.opened,
      ∃ path file, before.LeadsTo path place file :=
    List.forall_mem_cons.2 ⟨⟨_, _, course.leads⟩, course.unfolds.leads⟩
  intro stamp isStamp
  rw [course.stamps_eq] at isStamp
  obtain ⟨place, isOpened, path_eq⟩ := Emission.exists_location_of_mem_stamps isStamp
  obtain ⟨path, file, leads⟩ := leads place isOpened
  rw [Stamp.isStale, Stamp.isStale, path_eq, relinked.modified?_path leads.regular]

end Workspace

namespace Shader

open Watcher (prepared copying)

variable {State Compiled Program : Type} {shader : Shader State Compiled Program}
  {compiler : Compiler State Compiled Program} {before after : Workspace} {entry : Path}

/-- What a shader that was loaded at one moment tells of another: it is outdated exactly if it
was, and where its entry would end otherwise now, one of the paths that its resolution
followed has another canonical path, or none. -/
structure Overlooks (shader : Shader State Compiled Program) (entry : Path)
    (before after : Workspace) : Prop where
  silent : shader.isOutdated after = shader.isOutdated before
  shifted : ∃ resolution, shader.resolution = some resolution ∧
    before.resolve entry shader.limits = .ok resolution ∧
    (after.resolve entry shader.limits ≠ .ok resolution →
      ∃ path, before.Follows entry resolution path ∧
        after.canonicalize path ≠ before.canonicalize path)

/-- A change of links after a load that succeeded is not noticed, and only a path that the
load followed and that leads elsewhere changes what the entry resolves to. -/
theorem overlooks_links (compiler : Compiler State Compiled Program)
    (shader : Shader State Compiled Program) (entry : Path) (relinked : before.Relinked after)
    (succeeded : (shader.load compiler before entry).result = .ok ⟨⟩) :
    (shader.load compiler before entry).shader.Overlooks entry before after := by
  have ends := shader.load_ends compiler before entry
  generalize shader.load compiler before entry = outcome at ends succeeded
  cases ends with
  | unprepared | unresolved | refused | unlinked => cases succeeded
  | linked isPrepared resolved isLinked =>
    refine ⟨?_, ⟨_, rfl, resolved, ?_⟩⟩
    · have isStale_eq := relinked.isStale_eq resolved
      rw [Bool.eq_iff_iff]
      simp only [isOutdated, List.any_eq_true]
      exact exists_congr fun stamp => and_congr_right fun isStamp =>
        by rw [isStale_eq stamp isStamp]
    · intro differs
      by_contra steady
      refine differs (relinked.resolve_eq resolved fun path follows => ?_)
      by_contra elsewhere
      exact steady ⟨path, follows, elsewhere⟩

/-! ## A link that moves -/

namespace Crossing

/-- The files `day/sky` and `night/sky`, and `scene`, which includes `now/sky`. -/
def solids : List (Location × Entry) := [
  ([⟨"scene", by decide⟩], .file ⟨"#include \"now/sky\"\n".toUTF8, 1⟩),
  ([⟨"day", by decide⟩], .directory),
  ([⟨"day", by decide⟩, ⟨"sky", by decide⟩], .file ⟨"blue\n".toUTF8, 2⟩),
  ([⟨"night", by decide⟩], .directory),
  ([⟨"night", by decide⟩, ⟨"sky", by decide⟩], .file ⟨"black\n".toUTF8, 3⟩)]

def link : Location := [⟨"now", by decide⟩]

end Crossing

/-- A workspace in which `now` is a link to this path. -/
def crossing (goal : String) : Workspace where
  tree := ⟨Crossing.solids ++ [(Crossing.link, .link ⟨goal⟩)], fun _ => 0⟩
  directory := []

/-- Where the link leads makes no difference to files and directories. -/
theorem relinked_crossing (goal other : String) : (crossing goal).Relinked (crossing other) where
  directory_eq := rfl
  tree location := by
    simp only [FileTree.solid?, FileTree.entryAt?, crossing, List.lookup_append]
    cases Crossing.solids.lookup location with
    | some entry => rfl
    | none =>
      by_cases isLink : location = Crossing.link
      · subst isLink
        rfl
      · rw [FileTree.lookup_cons_of_ne isLink, FileTree.lookup_cons_of_ne isLink]

/-- A load that follows the link, and then the link moves. -/
theorem overlooks_links_crossing :
    (prepared.load copying (crossing "day") ⟨"scene"⟩).result = .ok ⟨⟩ ∧
      (prepared.load copying (crossing "day") ⟨"scene"⟩).shader.Overlooks ⟨"scene"⟩ (crossing "day")
        (crossing "night") := by
  have succeeded : (prepared.load copying (crossing "day") ⟨"scene"⟩).result = .ok ⟨⟩ := by
    decide +kernel
  exact ⟨succeeded, overlooks_links copying prepared ⟨"scene"⟩ (relinked_crossing "day" "night")
    succeeded⟩

/-- A shader that was loaded at one moment is outdated at another where nothing but links
has changed and the unit of its entry is another one, or none. -/
def NoticesLinks (shader : Shader State Compiled Program)
    (compiler : Compiler State Compiled Program) (entry : Path) (before after : Workspace) : Prop :=
  before.Relinked after → (shader.load compiler before entry).result = .ok ⟨⟩ →
    (after.resolve entry shader.limits).toOption.map Resolution.unit ≠
      (before.resolve entry shader.limits).toOption.map Resolution.unit →
    (shader.load compiler before entry).shader.isOutdated after = true

/-- The link moves, another file is included, and no stamp tells. -/
theorem not_noticesLinks_crossing :
    ¬ NoticesLinks prepared copying ⟨"scene"⟩ (crossing "day") (crossing "night") := by
  intro notices
  have outdated := notices (relinked_crossing "day" "night") (by decide +kernel) (by decide +kernel)
  exact absurd outdated (by decide +kernel)

end Shader

end LiveShader
