import Mathlib.Algebra.GroupWithZero.Nat
import LiveShader.Proofs.Provenance.Origins

/-!
# A provenance is a log of pushes

A provenance grows by pushes of files and of lines. All that it answers afterwards is read
off the log of these pushes: the line with a number is the push of a line with that number,
however files alternate and wherever their local numbers jump
(`Provenance.mirrorsLog_pushAll`). That lines are merged to segments never shows.
-/

namespace LiveShader

/-- One push: a file, or a line with its origin. -/
inductive Push where
  | file (path : Path) (modified : Option Nat)
  | line (origin : Origin)

namespace Push

/-- The file that is pushed. -/
def file? : Push → Option (Path × Option Nat)
  | .file path modified => some (path, modified)
  | .line _ => none

/-- The origin of the line that is pushed. -/
def origin? : Push → Option Origin
  | .file _ _ => none
  | .line origin => some origin

/-- The files of a log, in their order. -/
def files (log : List Push) : List (Path × Option Nat) :=
  log.filterMap file?

/-- The origins of the lines of a log, in their order. -/
def origins (log : List Push) : List Origin :=
  log.filterMap origin?

/-- Each line is pushed for a file that was pushed before, where `size` files were there
before the log. -/
def RefersBack (size : Nat) : List Push → Prop
  | [] => True
  | .file _ _ :: rest => RefersBack (size + 1) rest
  | .line origin :: rest => origin.contributor < size ∧ RefersBack size rest

section Lists

variable (log : List Push)

@[simp] theorem files_nil : files [] = [] := rfl

@[simp] theorem origins_nil : origins [] = [] := rfl

@[simp] theorem files_file (path : Path) (modified : Option Nat) :
    files (.file path modified :: log) = (path, modified) :: files log := rfl

@[simp] theorem origins_file (path : Path) (modified : Option Nat) :
    origins (.file path modified :: log) = origins log := rfl

@[simp] theorem files_line (origin : Origin) : files (.line origin :: log) = files log := rfl

@[simp] theorem origins_line (origin : Origin) :
    origins (.line origin :: log) = origin :: origins log := rfl

end Lists

/-- What is pushed first refers back as well. -/
theorem RefersBack.of_append {size : Nat} {before after : List Push}
    (refersBack : RefersBack size (before ++ after)) : RefersBack size before := by
  induction before generalizing size with
  | nil => trivial
  | cons push rest inductionHypothesis =>
    cases push with
    | file path modified => exact inductionHypothesis refersBack
    | line origin => exact ⟨refersBack.1, inductionHypothesis refersBack.2⟩

end Push

namespace Origin

/-- The file and the line in it, if the file owns the line. -/
def owned? : Origin → Option (Nat × Nat)
  | .own contributor localLine => some (contributor, localLine)
  | .repeated _ _ => none

/-- The line is owned by the file. -/
def isOwnedBy (index : Nat) : Origin → Bool
  | .own contributor _ => contributor = index
  | .repeated _ _ => false

end Origin

/-- The origin that an attribution names. -/
def Attribution.origin? : Attribution → Option Origin
  | .own place => some (.own place.index place.localLine)
  | .enclosing place => some (.repeated place.index place.localLine)
  | .unresolved => none

namespace Provenance

/-- Take a push. A file gives its index back, and a line its number. -/
def push (provenance : Provenance) : Push → Provenance × Nat
  | .file path modified => (provenance.addContributor path modified, provenance.size)
  | .line (.own index localLine) =>
    let next := provenance.addOwned index localLine
    (next, next.totalLines)
  | .line (.repeated index localLine) =>
    let next := provenance.addPlaceholder index localLine
    (next, next.totalLines)

/-- Take the pushes of a log. -/
def pushAll (provenance : Provenance) (log : List Push) : Provenance :=
  log.foldl (fun grown push => (grown.push push).1) provenance

@[simp] theorem pushAll_nil (provenance : Provenance) : provenance.pushAll [] = provenance := rfl

@[simp] theorem pushAll_cons (provenance : Provenance) (push : Push) (log : List Push) :
    provenance.pushAll (push :: log) = (provenance.push push).1.pushAll log := rfl

/-- What a file is, apart from its lines. -/
def fileOf (contributor : Contributor) : Path × Option Nat :=
  (contributor.path, contributor.modified)

variable {provenance : Provenance} {files : List (Path × Option Nat)} {origins : List Origin}

/-- One file more owns one line more. -/
theorem sum_ownedLines_modify {contributors : List Contributor} {index line : Nat}
    (localLine : Nat) (inside : index < contributors.length)
    (behind : ∀ contributor ∈ contributors, ∀ segment ∈ contributor.segments,
      segment.start ≤ segment.stop ∧ segment.stop < line) :
    ((contributors.modify index (·.addOwned line localLine)).map Contributor.ownedLines).sum =
      (contributors.map Contributor.ownedLines).sum + 1 := by
  induction contributors generalizing index with
  | nil => exact absurd inside (Nat.not_lt_zero index)
  | cons first rest inductionHypothesis =>
    obtain ⟨firstBehind, restBehind⟩ := List.forall_mem_cons.1 behind
    cases index with
    | zero =>
      rw [List.modify_zero_cons, List.map_cons, List.map_cons, List.sum_cons, List.sum_cons,
        Contributor.ownedLines_addOwned localLine firstBehind]
      omega
    | succ index =>
      have later := inductionHypothesis (Nat.lt_of_succ_lt_succ inside) restBehind
      rw [List.modify_succ_cons, List.map_cons, List.map_cons, List.sum_cons, List.sum_cons, later]
      omega

/-- What a provenance is after a log: its files, its lines as a list of origins, and how
many of them each file owns. -/
structure Logged (provenance : Provenance) (files : List (Path × Option Nat))
    (origins : List Origin) : Prop where
  files_eq : provenance.contributors.map fileOf = files
  records : provenance.Records origins
  ownedLines_eq : ∀ index contributor, provenance.contributors[index]? = some contributor →
    contributor.ownedLines = origins.countP (Origin.isOwnedBy index)
  sum_eq : (provenance.contributors.map Contributor.ownedLines).sum +
    provenance.placeholders.length = provenance.totalLines

namespace Logged

/-- Nothing is recorded at first. -/
theorem empty (root : Path) : (Provenance.empty root).Logged [] [] where
  files_eq := rfl
  records := .empty root
  ownedLines_eq index contributor atIndex := by simp [Provenance.empty] at atIndex
  sum_eq := rfl

/-- As many contributors are recorded as files. -/
theorem size_eq (logged : provenance.Logged files origins) : provenance.size = files.length := by
  rw [← logged.files_eq, List.length_map, size]

/-- No line is owned by a file that is not there yet. -/
theorem countP_size (logged : provenance.Logged files origins) :
    origins.countP (Origin.isOwnedBy provenance.contributors.length) = 0 := by
  rw [List.countP_eq_zero]
  intro origin member isOwned
  have known := logged.records.contributor_lt origin member
  cases origin with
  | own index localLine => exact Nat.ne_of_lt known (of_decide_eq_true isOwned)
  | repeated => cases isOwned

/-- All segments are behind the next line. -/
theorem behind (logged : provenance.Logged files origins) :
    ∀ contributor ∈ provenance.contributors, ∀ segment ∈ contributor.segments,
      segment.start ≤ segment.stop ∧ segment.stop < provenance.totalLines + 1 := by
  intro contributor member segment segmentMember
  have bounds := logged.records.within contributor member segment segmentMember
  omega

/-- A new contributor is recorded behind the others. -/
theorem addContributor (logged : provenance.Logged files origins) (path : Path)
    (modified : Option Nat) :
    (provenance.addContributor path modified).Logged (files ++ [(path, modified)]) origins where
  files_eq := by
    rw [← logged.files_eq]
    simp [Provenance.addContributor, fileOf]
  records := logged.records.addContributor path modified
  ownedLines_eq index contributor atIndex := by
    rcases exists_of_contributors_addContributor atIndex with isOld | ⟨rfl, unowned⟩
    · exact logged.ownedLines_eq index contributor isOld
    · rw [logged.countP_size, Contributor.ownedLines, unowned, List.foldr_nil]
  sum_eq := by
    have sum_eq := logged.sum_eq
    simpa [Provenance.addContributor, Contributor.ownedLines] using sum_eq

/-- A line counts for its owner, and for no other file. -/
theorem addOwned (logged : provenance.Logged files origins) (index localLine : Nat)
    (inside : index < provenance.contributors.length) :
    (provenance.addOwned index localLine).Logged files (origins ++ [.own index localLine]) where
  files_eq := by
    rw [← logged.files_eq]
    exact Contributor.map_modify_addOwned (fun _ _ _ => rfl) _ _ _ _
  records := logged.records.addOwned localLine inside
  ownedLines_eq position contributor atPosition := by
    obtain ⟨before, beforeAt, rfl⟩ := exists_of_contributors_addOwned atPosition
    have old := logged.ownedLines_eq position before beforeAt
    have isBehind := logged.behind before (List.mem_of_getElem? beforeAt)
    by_cases isOwner : index = position
    · rw [if_pos isOwner, Contributor.ownedLines_addOwned localLine isBehind, old]
      simp [Origin.isOwnedBy, isOwner]
    · rw [if_neg isOwner, old]
      simp [Origin.isOwnedBy, isOwner]
  sum_eq := by
    have sum_eq := logged.sum_eq
    have oneMore := sum_ownedLines_modify localLine inside logged.behind
    simp only [Provenance.addOwned]
    omega

/-- A placeholder counts for no file. -/
theorem addPlaceholder (logged : provenance.Logged files origins) (index localLine : Nat)
    (inside : index < provenance.contributors.length) :
    (provenance.addPlaceholder index localLine).Logged files
      (origins ++ [.repeated index localLine]) where
  files_eq := logged.files_eq
  records := logged.records.addPlaceholder localLine inside
  ownedLines_eq position contributor atPosition := by
    have old := logged.ownedLines_eq position contributor atPosition
    simpa [Origin.isOwnedBy] using old
  sum_eq := by
    have sum_eq := logged.sum_eq
    simp only [Provenance.addPlaceholder, List.length_append, List.length_singleton]
    omega

/-- What a whole log adds. -/
theorem pushAll {log : List Push} (logged : provenance.Logged files origins)
    (refersBack : Push.RefersBack files.length log) :
    (provenance.pushAll log).Logged (files ++ Push.files log) (origins ++ Push.origins log) := by
  induction log generalizing provenance files origins with
  | nil => simpa using logged
  | cons push rest inductionHypothesis =>
    cases push with
    | file path modified =>
      have next := inductionHypothesis (logged.addContributor path modified)
        (by rw [List.length_append]; exact refersBack)
      simpa [push] using next
    | line origin =>
      obtain ⟨known, later⟩ := refersBack
      have inside : origin.contributor < provenance.contributors.length := by
        rw [← logged.size_eq] at known
        exact known
      cases origin with
      | own index localLine =>
        have next := inductionHypothesis (logged.addOwned index localLine inside) later
        simpa [push] using next
      | repeated index localLine =>
        have next := inductionHypothesis (logged.addPlaceholder index localLine inside) later
        simpa [push] using next

/-- A push gives back how many files, or lines, the log had before. -/
theorem push_snd (logged : provenance.Logged files origins) (push : Push) :
    (provenance.push push).2 =
      match push with
      | .file _ _ => files.length
      | .line _ => origins.length + 1 := by
  have total := logged.records.totalLines_eq
  cases push with
  | file path modified => exact logged.size_eq
  | line origin => cases origin <;> exact congrArg (· + 1) total

end Logged

/-! ## Answers read off the log -/

/-- A provenance answers as the log of its pushes does. -/
structure MirrorsLog (provenance : Provenance) (log : List Push) : Prop where
  files_eq : provenance.contributors.map fileOf = Push.files log
  locate_eq : ∀ line, (provenance.locate line).map (fun place => (place.index, place.localLine)) =
    (atLine? (Push.origins log) line).bind Origin.owned?
  located : ∀ line place, provenance.locate line = some place →
    provenance.contributors[place.index]? = some place.contributor
  attribution_eq : ∀ line, (provenance.attribution line).origin? = atLine? (Push.origins log) line
  attributed : ∀ line place, provenance.attribution line = .own place ∨
    provenance.attribution line = .enclosing place →
      provenance.contributors[place.index]? = some place.contributor
  ownedLines_eq : ∀ index contributor, provenance.contributors[index]? = some contributor →
    contributor.ownedLines = (Push.origins log).countP (Origin.isOwnedBy index)
  sum_eq : (provenance.contributors.map Contributor.ownedLines).sum +
    provenance.placeholders.length = provenance.totalLines

namespace Records

/-- What is located at a line is what was pushed there, if a file owns it. -/
theorem locate_eq (records : provenance.Records origins) (line : Nat) :
    (provenance.locate line).map (fun place => (place.index, place.localLine)) =
      (atLine? origins line).bind Origin.owned? := by
  cases located : provenance.locate line with
  | some place => rw [(records.locate_eq_some_iff.1 located).2]; rfl
  | none =>
    cases here : atLine? origins line with
    | none => rfl
    | some origin =>
      cases origin with
      | repeated index localLine => rfl
      | own index localLine =>
        have atIndex := List.getElem?_eq_getElem
          (records.contributor_lt _ (mem_of_atLine? here))
        have owner : provenance.locate line = some ⟨index, _, localLine⟩ :=
          records.locate_eq_some_iff.2 ⟨atIndex, here⟩
        rw [located] at owner
        cases owner

/-- A line is attributed to what was pushed there. -/
theorem attribution_eq (records : provenance.Records origins) (line : Nat) :
    (provenance.attribution line).origin? = atLine? origins line := by
  cases attributed : provenance.attribution line with
  | own place => exact (records.attribution_own_iff.1 attributed).2.symm
  | enclosing place => exact (records.attribution_enclosing_iff.1 attributed).2.symm
  | unresolved =>
    have outside := records.attribution_unresolved_iff.1 attributed
    rw [records.totalLines_eq] at outside
    exact (atLine?_eq_none_iff.2 outside).symm

end Records

/-- A provenance that logged what was pushed mirrors the log. -/
theorem Logged.mirrorsLog {log : List Push}
    (logged : provenance.Logged (Push.files log) (Push.origins log)) :
    provenance.MirrorsLog log where
  files_eq := logged.files_eq
  locate_eq := logged.records.locate_eq
  located line place located := (logged.records.locate_eq_some_iff.1 located).1
  attribution_eq := logged.records.attribution_eq
  attributed line place attributed := by
    rcases attributed with isOwn | isEnclosing
    · exact (logged.records.attribution_own_iff.1 isOwn).1
    · exact (logged.records.attribution_enclosing_iff.1 isEnclosing).1
  ownedLines_eq := logged.ownedLines_eq
  sum_eq := logged.sum_eq

/-- Whatever is pushed, each push gives back its index or its number, and the provenance
answers as the log does. No bound on the numbers is needed. -/
theorem mirrorsLog_pushAll (root : Path) (log : List Push) (refersBack : Push.RefersBack 0 log) :
    (∀ before push after, log = before ++ push :: after →
      (((Provenance.empty root).pushAll before).push push).2 =
        match push with
        | .file _ _ => (Push.files before).length
        | .line _ => (Push.origins before).length + 1) ∧
    ((Provenance.empty root).pushAll log).MirrorsLog log := by
  constructor
  · intro before push after log_eq
    rw [log_eq] at refersBack
    exact ((Logged.empty root).pushAll refersBack.of_append).push_snd push
  · exact ((Logged.empty root).pushAll refersBack).mirrorsLog

/-- Two files whose lines alternate, and whose local numbers go on, jump and go back. -/
def jumpingLog : List Push :=
  [.file ⟨"/s/main"⟩ none, .line (.own 0 5), .file ⟨"/s/lib"⟩ (some 7), .line (.own 1 1),
    .line (.own 1 2), .line (.own 0 6), .line (.repeated 0 7), .line (.own 1 2), .line (.own 0 3)]

/-- The sixth line is found where it was pushed, though two files and a placeholder stand
around it, and the last push is the seventh line. -/
theorem mirrorsLog_jumpingLog : Push.RefersBack 0 jumpingLog ∧
    ((Provenance.empty ⟨"/s"⟩).pushAll jumpingLog).MirrorsLog jumpingLog ∧
      atLine? (Push.origins jumpingLog) 6 = some (.own 1 2) ∧
      (((Provenance.empty ⟨"/s"⟩).pushAll (jumpingLog.take 8)).push (.line (.own 0 3))).2 = 7 := by
  have refersBack : Push.RefersBack 0 jumpingLog := by
    simp [jumpingLog, Push.RefersBack, Origin.contributor]
  obtain ⟨gives, mirrors⟩ := mirrorsLog_pushAll ⟨"/s"⟩ jumpingLog refersBack
  exact ⟨refersBack, mirrors, rfl, gives (jumpingLog.take 8) (.line (.own 0 3)) [] rfl⟩

end Provenance

end LiveShader
