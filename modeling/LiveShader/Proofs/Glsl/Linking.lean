import Mathlib.Data.List.Sort
import Mathlib.Order.Bounds.Defs
import LiveShader.Glsl.Compiler

/-!
# Linking is inclusion of interfaces

`Slot.Binds` says which locations a slot binds, and no list stands in it: what a module reads
and writes are sets. The linker compares those sets (`linksByInterface`), so all that two
modules with the same sets differ in is lost on it, such as the order of members, repeated
ones, and structs that only group them (`Slot.Regroups`).
-/

namespace LiveShader.Glsl

/-! ## Locations of slots -/

/-- A slot binds a location: by its own binding, or, if it is a struct without one, by that of
a member. -/
inductive Slot.Binds : Slot → Nat → Prop where
  | value {location} : Binds (.value (some (.location location))) location
  | struct {location members} : Binds (.struct (some (.location location)) members) location
  | member {members member location} (isMember : member ∈ members)
      (binds : Binds member location) : Binds (.struct none members) location

/-- Some of the slots binds a location. -/
def Slot.AnyBinds (slots : List Slot) (location : Nat) : Prop :=
  ∃ slot ∈ slots, slot.Binds location

/-- The slots are the others in another arrangement: in another order, with repetitions, and
grouped otherwise into structs without a binding. Members are arranged as slots are. -/
inductive Slot.Regroups : List Slot → List Slot → Prop where
  | refl {slots} : Regroups slots slots
  | symm {slots others} (regroups : Regroups slots others) : Regroups others slots
  | trans {slots others more} (first : Regroups slots others) (second : Regroups others more) :
      Regroups slots more
  | cons {slot slots others} (regroups : Regroups slots others) :
      Regroups (slot :: slots) (slot :: others)
  | swap {first second slots} : Regroups (first :: second :: slots) (second :: first :: slots)
  | repeated {slot slots} : Regroups (slot :: slots) (slot :: slot :: slots)
  | grouped {members slots} : Regroups (members ++ slots) (.struct none members :: slots)
  | within {binding members others slots} (regroups : Regroups members others) :
      Regroups (.struct binding members :: slots) (.struct binding others :: slots)

namespace Slot

variable {slot : Slot} {slots others members : List Slot} {location : Nat}

/-- Where there is no slot, none binds a location. -/
@[simp] theorem anyBinds_nil : ¬ AnyBinds [] location := by
  simp [AnyBinds]

/-- The first slot binds a location, or one of the others does. -/
@[simp] theorem anyBinds_cons :
    AnyBinds (slot :: slots) location ↔ slot.Binds location ∨ AnyBinds slots location := by
  simp [AnyBinds]

/-- What binds a location is on one side or on the other. -/
@[simp] theorem anyBinds_append :
    AnyBinds (slots ++ others) location ↔ AnyBinds slots location ∨ AnyBinds others location := by
  simp [AnyBinds, or_and_right, exists_or]

/-- A struct without a binding stands for its members. -/
@[simp] theorem binds_struct_none :
    (Slot.struct none members).Binds location ↔ AnyBinds members location := by
  constructor
  · intro binds
    cases binds with
    | member isMember binds => exact ⟨_, isMember, binds⟩
  · rintro ⟨member, isMember, binds⟩
    exact .member isMember binds

mutual

/-- The locations of a slot are those that it binds. -/
theorem mem_locations_iff : ∀ (slot : Slot) (location : Nat),
    location ∈ slot.locations ↔ slot.Binds location
  | .value none, _ => iff_of_false List.not_mem_nil nofun
  | .value (some .builtin), _ => iff_of_false List.not_mem_nil nofun
  | .struct (some .builtin) members, location => by
    rw [locations]
    exact iff_of_false List.not_mem_nil nofun
  | .value (some (.location number)), location => by
    rw [locations, List.mem_singleton]
    constructor
    · rintro rfl
      exact .value
    · rintro ⟨⟩
      rfl
  | .struct (some (.location number)) members, location => by
    rw [locations, List.mem_singleton]
    constructor
    · rintro rfl
      exact .struct
    · rintro ⟨⟩
      rfl
  | .struct none members, location => by
    rw [locations, binds_struct_none, mem_allLocations_iff members location]

/-- The locations of slots are those that one of them binds. -/
theorem mem_allLocations_iff : ∀ (slots : List Slot) (location : Nat),
    location ∈ allLocations slots ↔ AnyBinds slots location
  | [], location => by simp [allLocations]
  | slot :: slots, location => by
    rw [allLocations, List.mem_append, anyBinds_cons, mem_locations_iff slot location,
      mem_allLocations_iff slots location]

end

/-- What slots bind does not depend on their arrangement. -/
theorem Regroups.anyBinds_iff (regroups : Regroups slots others) (location : Nat) :
    AnyBinds slots location ↔ AnyBinds others location := by
  induction regroups with
  | refl => rfl
  | symm regroups inductionHypothesis => exact inductionHypothesis.symm
  | trans first second firstHypothesis secondHypothesis =>
    exact firstHypothesis.trans secondHypothesis
  | cons regroups inductionHypothesis => rw [anyBinds_cons, anyBinds_cons, inductionHypothesis]
  | swap => simp only [anyBinds_cons, or_left_comm]
  | repeated => simp only [anyBinds_cons, or_self_left]
  | grouped => rw [anyBinds_append, anyBinds_cons, binds_struct_none]
  | @within binding members others slots regroups inductionHypothesis =>
    have struct_iff : (Slot.struct binding members).Binds location ↔
        (Slot.struct binding others).Binds location := by
      cases binding with
      | none => rw [binds_struct_none, binds_struct_none, inductionHypothesis]
      | some binding =>
        constructor
        · rintro ⟨⟩
          exact .struct
        · rintro ⟨⟩
          exact .struct
    rw [anyBinds_cons, anyBinds_cons, struct_iff]

end Slot

/-! ## Increasing lists -/

section Increasing

variable {number other : Nat} {numbers others : List Nat}

/-- What is in a list after a number was put there: the number, and what was there before. -/
theorem mem_insertSorted_iff :
    other ∈ insertSorted number numbers ↔ other = number ∨ other ∈ numbers := by
  induction numbers with
  | nil => rw [insertSorted, List.mem_singleton, or_iff_left List.not_mem_nil]
  | cons head tail inductionHypothesis =>
    rw [insertSorted]
    split
    · rw [List.mem_cons]
    · split
      · rename_i same
        rw [same, List.mem_cons, or_self_left]
      · rw [List.mem_cons, inductionHypothesis, List.mem_cons, or_left_comm]

/-- A number that is put into an increasing list leaves it increasing. -/
theorem pairwise_insertSorted (inOrder : numbers.Pairwise (· < ·)) (number : Nat) :
    (insertSorted number numbers).Pairwise (· < ·) := by
  induction numbers with
  | nil => exact List.pairwise_singleton _ _
  | cons head tail inductionHypothesis =>
    obtain ⟨first, rest⟩ := List.pairwise_cons.1 inOrder
    rw [insertSorted]
    split
    · rename_i less
      refine List.pairwise_cons.2 ⟨List.forall_mem_cons.2 ⟨less, fun other member => ?_⟩, inOrder⟩
      exact Nat.lt_trans less (first other member)
    · split
      · exact inOrder
      · refine List.pairwise_cons.2 ⟨fun other member => ?_, inductionHypothesis rest⟩
        rcases mem_insertSorted_iff.1 member with rfl | later
        · omega
        · exact first other later

/-- A list in increasing order has the numbers of the list. -/
theorem mem_increasing_iff : number ∈ increasing numbers ↔ number ∈ numbers := by
  induction numbers with
  | nil => rfl
  | cons head tail inductionHypothesis =>
    rw [List.mem_cons, ← inductionHypothesis]
    exact mem_insertSorted_iff

/-- A list in increasing order is strictly so. -/
theorem pairwise_increasing (numbers : List Nat) : (increasing numbers).Pairwise (· < ·) := by
  induction numbers with
  | nil => exact .nil
  | cons head tail inductionHypothesis => exact pairwise_insertSorted inductionHypothesis head

/-- An increasing list is told by its members. -/
theorem increasing_eq_of_mem_iff (same : ∀ number, number ∈ numbers ↔ number ∈ others) :
    increasing numbers = increasing others := by
  refine (pairwise_increasing numbers).eq_of_mem_iff (pairwise_increasing others) fun number => ?_
  rw [mem_increasing_iff, mem_increasing_iff, same]

/-- The first of an increasing list with a property is the least. -/
theorem isLeast_of_find? {accepts : Nat → Bool} (inOrder : numbers.Pairwise (· < ·))
    (found : numbers.find? accepts = some number) :
    IsLeast {number | number ∈ numbers ∧ accepts number = true} number := by
  obtain ⟨accepted, before, after, rfl, refused⟩ := List.find?_eq_some_iff_append.1 found
  refine ⟨⟨List.mem_append_right _ List.mem_cons_self, accepted⟩, ?_⟩
  rintro other ⟨member, otherAccepted⟩
  rcases List.mem_append.1 member with isBefore | isAfter
  · have otherRefused := refused other isBefore
    rw [otherAccepted] at otherRefused
    cases otherRefused
  · rcases List.mem_cons.1 isAfter with rfl | later
    · exact le_rfl
    · have behind := (List.pairwise_append.1 inOrder).2.1
      exact Nat.le_of_lt ((List.pairwise_cons.1 behind).1 other later)

end Increasing

/-! ## Interfaces of modules -/

/-- An entry point is the other one, with its slots in another arrangement. -/
structure EntryPoint.Regroups (entry other : EntryPoint) : Prop where
  stage_eq : entry.stage = other.stage
  arguments : Slot.Regroups entry.arguments other.arguments
  result : Slot.Regroups entry.result.toList other.result.toList

namespace Module

/-- The module has an entry point of the stage. -/
def HasEntry (module : Module) (stage : EntryStage) : Prop :=
  ∃ entry ∈ module.entries, entry.stage = stage

/-- The entry point is the first of its stage in the module. -/
def IsFirst (module : Module) (stage : EntryStage) (entry : EntryPoint) : Prop :=
  entry.stage = stage ∧ ∃ before after, module.entries = before ++ entry :: after ∧
    ∀ earlier ∈ before, earlier.stage ≠ stage

/-- The first entry point of a stage binds the location in some of its slots. -/
def Exposes (module : Module) (stage : EntryStage) (slots : EntryPoint → List Slot)
    (location : Nat) : Prop :=
  ∃ entry, module.IsFirst stage entry ∧ Slot.AnyBinds (slots entry) location

/-- The module writes the location as a vertex stage. -/
def Writes (module : Module) : Nat → Prop :=
  module.Exposes .vertex fun entry => entry.result.toList

/-- The module reads the location as a fragment stage. -/
def Reads (module : Module) : Nat → Prop :=
  module.Exposes .fragment EntryPoint.arguments

/-- A module is the other one, with the slots of its entry points in another arrangement. -/
def Regroups (module other : Module) : Prop :=
  List.Forall₂ EntryPoint.Regroups module.entries other.entries

variable {module other : Module} {stage : EntryStage} {entry : EntryPoint} {location : Nat}
  {slots : EntryPoint → List Slot}

/-- An entry point of a stage is the first one for that stage. -/
theorem entryPoint?_eq_some_iff :
    module.entryPoint? stage = some entry ↔ module.IsFirst stage entry := by
  rw [Module.entryPoint?, List.find?_eq_some_iff_append, IsFirst]
  simp only [decide_eq_true_eq, Bool.not_eq_true', decide_eq_false_iff_not, ne_eq]

/-- There is no entry point of a stage exactly if none is for that stage. -/
theorem entryPoint?_eq_none_iff : module.entryPoint? stage = none ↔ ¬ module.HasEntry stage := by
  rw [Module.entryPoint?, List.find?_eq_none, HasEntry]
  simp only [decide_eq_true_eq, not_exists, not_and]

/-- A stage whose entry point was found has one. -/
theorem hasEntry_of_entryPoint? (isEntry : module.entryPoint? stage = some entry) :
    module.HasEntry stage := by
  obtain ⟨stage_eq, before, after, entries_eq, -⟩ := entryPoint?_eq_some_iff.1 isEntry
  refine ⟨entry, ?_, stage_eq⟩
  rw [entries_eq]
  exact List.mem_append_right _ List.mem_cons_self

/-- The locations of an entry point are those that the module exposes. -/
theorem mem_increasing_iff_exposes (slots : EntryPoint → List Slot)
    (isEntry : module.entryPoint? stage = some entry) :
    location ∈ increasing (Slot.allLocations (slots entry)) ↔
      module.Exposes stage slots location := by
  rw [mem_increasing_iff, Slot.mem_allLocations_iff]
  constructor
  · exact fun binds => ⟨entry, entryPoint?_eq_some_iff.1 isEntry, binds⟩
  · rintro ⟨first, isFirst, binds⟩
    obtain rfl := Option.some.inj (isEntry.symm.trans (entryPoint?_eq_some_iff.2 isFirst))
    exact binds

/-- The locations of a stage do not depend on the arrangement of its slots. -/
theorem Regroups.locations_eq (regroups : module.Regroups other) (stage : EntryStage)
    (arranged : ∀ {entry others : EntryPoint}, entry.Regroups others →
      Slot.Regroups (slots entry) (slots others)) :
    (module.entryPoint? stage).map (fun entry => increasing (Slot.allLocations (slots entry))) =
      (other.entryPoint? stage).map fun entry => increasing (Slot.allLocations (slots entry)) := by
  obtain ⟨entries⟩ := module
  obtain ⟨otherEntries⟩ := other
  simp only [Regroups, entryPoint?] at regroups ⊢
  induction regroups with
  | nil => rfl
  | @cons entry others _ _ regrouped later inductionHypothesis =>
    rw [List.find?_cons, List.find?_cons, regrouped.stage_eq]
    split
    · refine congrArg some (increasing_eq_of_mem_iff fun location => ?_)
      rw [Slot.mem_allLocations_iff, Slot.mem_allLocations_iff,
        (arranged regrouped).anyBinds_iff]
    · exact inductionHypothesis

end Module

/-! ## Linking -/

/-- What linking two modules answers: the locations that are read, if all of them are written,
and otherwise what is missing. -/
inductive Links (vertex fragment : Module) : Except LinkError (List Nat) → Prop where
  | fits {read} (hasVertex : vertex.HasEntry .vertex) (hasFragment : fragment.HasEntry .fragment)
      (included : ∀ location, fragment.Reads location → vertex.Writes location)
      (inOrder : read.Pairwise (· < ·))
      (mem_iff : ∀ location, location ∈ read ↔ fragment.Reads location) :
      Links vertex fragment (.ok read)
  | noVertexEntry (hasNoVertex : ¬ vertex.HasEntry .vertex) :
      Links vertex fragment (.error .noVertexEntry)
  | noFragmentEntry (hasVertex : vertex.HasEntry .vertex)
      (hasNoFragment : ¬ fragment.HasEntry .fragment) :
      Links vertex fragment (.error .noFragmentEntry)
  | unmatchedInput {location} (hasVertex : vertex.HasEntry .vertex)
      (hasFragment : fragment.HasEntry .fragment)
      (isLeast : IsLeast {location | fragment.Reads location ∧ ¬ vertex.Writes location}
        location) :
      Links vertex fragment (.error (.unmatchedInput location))

/-- What linking answers is what the relation of linking says. -/
theorem links_varyings (vertex fragment : Module) :
    Links vertex fragment (varyings vertex fragment) := by
  rw [varyings, Module.outputs?, Module.inputs?]
  cases writes : vertex.entryPoint? .vertex with
  | none => exact .noVertexEntry (Module.entryPoint?_eq_none_iff.1 writes)
  | some writer =>
    have hasVertex := Module.hasEntry_of_entryPoint? writes
    cases reads : fragment.entryPoint? .fragment with
    | none => exact .noFragmentEntry hasVertex (Module.entryPoint?_eq_none_iff.1 reads)
    | some reader =>
      have hasFragment := Module.hasEntry_of_entryPoint? reads
      have written_iff : ∀ location,
          location ∈ increasing (Slot.allLocations writer.result.toList) ↔
            vertex.Writes location :=
        fun _ => Module.mem_increasing_iff_exposes (fun entry => entry.result.toList) writes
      have read_iff : ∀ location, location ∈ increasing (Slot.allLocations reader.arguments) ↔
          fragment.Reads location :=
        fun _ => Module.mem_increasing_iff_exposes EntryPoint.arguments reads
      have inOrder := pairwise_increasing (Slot.allLocations reader.arguments)
      simp only [Option.map_some]
      split
      · rename_i location found
        have isLeast := isLeast_of_find? inOrder found
        simp only [read_iff, Bool.not_eq_true', List.contains_eq_mem, decide_eq_false_iff_not,
          written_iff] at isLeast
        exact .unmatchedInput hasVertex hasFragment isLeast
      · rename_i unfound
        refine .fits hasVertex hasFragment (fun location isRead => ?_) inOrder read_iff
        have matched := List.find?_eq_none.1 unfound location ((read_iff location).2 isRead)
        simpa only [List.contains_eq_mem, Bool.not_eq_true', decide_eq_false_iff_not, not_not,
          written_iff] using matched

/-- How members are grouped into structures has no say in linking. -/
theorem varyings_eq_of_regroups {vertex fragment otherVertex otherFragment : Module}
    (vertexRegroups : vertex.Regroups otherVertex)
    (fragmentRegroups : fragment.Regroups otherFragment) :
    varyings vertex fragment = varyings otherVertex otherFragment := by
  have outputs_eq : vertex.outputs? .vertex = otherVertex.outputs? .vertex :=
    vertexRegroups.locations_eq .vertex EntryPoint.Regroups.result
  have inputs_eq : fragment.inputs? .fragment = otherFragment.inputs? .fragment :=
    fragmentRegroups.locations_eq .fragment EntryPoint.Regroups.arguments
  rw [varyings, varyings, outputs_eq, inputs_eq]

/-- The message of a failed link blames the first of three: a vertex stage without an entry
point, a fragment stage without one, the smallest location that is read and not written. -/
inductive Blames (vertex fragment : Module) : String → Prop where
  | vertexStage (hasNoVertex : ¬ vertex.HasEntry .vertex) :
      Blames vertex fragment "vertex stage has no entry point"
  | fragmentStage (hasVertex : vertex.HasEntry .vertex)
      (hasNoFragment : ¬ fragment.HasEntry .fragment) :
      Blames vertex fragment "fragment stage has no entry point"
  | input {location} (hasVertex : vertex.HasEntry .vertex)
      (hasFragment : fragment.HasEntry .fragment)
      (isLeast : IsLeast {location | fragment.Reads location ∧ ¬ vertex.Writes location}
        location) :
      Blames vertex fragment
        ("fragment input at location " ++ toString location ++ " has no matching vertex output")

/-- A linker compares what the fragment stage reads with what the vertex stage writes, and sees
nothing else of the two. -/
structure LinksByInterface (link : StageModule → StageModule → Except String Program) : Prop where
  ok_iff : ∀ vertex fragment, (∃ program, link vertex fragment = .ok program) ↔
    vertex.module.HasEntry .vertex ∧ fragment.module.HasEntry .fragment ∧
      ∀ location, fragment.module.Reads location → vertex.module.Writes location
  program : ∀ vertex fragment program, link vertex fragment = .ok program →
    program.fragment = fragment.module ∧ program.stage = fragment.stage ∧
      program.varyings.Pairwise (· < ·) ∧
      ∀ location, location ∈ program.varyings ↔ fragment.module.Reads location
  message : ∀ vertex fragment message, link vertex fragment = .error message →
    Blames vertex.module fragment.module message
  regrouped : ∀ vertex fragment otherVertex otherFragment : StageModule,
    vertex.module.Regroups otherVertex.module → fragment.module.Regroups otherFragment.module →
      (link vertex fragment).map Program.varyings =
        (link otherVertex otherFragment).map Program.varyings

section

variable {vertex fragment : Module} {answer : Except LinkError (List Nat)}

/-- Modules are linked exactly if both have their entry points and all that the fragment stage
reads is written by the vertex stage. -/
theorem Links.exists_ok_iff (links : Links vertex fragment answer) :
    (∃ read, answer = .ok read) ↔ vertex.HasEntry .vertex ∧ fragment.HasEntry .fragment ∧
      ∀ location, fragment.Reads location → vertex.Writes location := by
  cases links with
  | fits hasVertex hasFragment included =>
    exact iff_of_true ⟨_, rfl⟩ ⟨hasVertex, hasFragment, included⟩
  | noVertexEntry hasNoVertex =>
    exact iff_of_false nofun fun fits => hasNoVertex fits.1
  | noFragmentEntry hasVertex hasNoFragment =>
    exact iff_of_false nofun fun fits => hasNoFragment fits.2.1
  | unmatchedInput hasVertex hasFragment isLeast =>
    obtain ⟨isRead, isUnwritten⟩ := isLeast.1
    exact iff_of_false nofun fun fits => isUnwritten (fits.2.2 _ isRead)

/-- What linking complains of is so. -/
theorem Links.blames {error : LinkError} (links : Links vertex fragment (.error error)) :
    Blames vertex fragment error.message := by
  cases links with
  | noVertexEntry hasNoVertex => exact .vertexStage hasNoVertex
  | noFragmentEntry hasVertex hasNoFragment => exact .fragmentStage hasVertex hasNoFragment
  | unmatchedInput hasVertex hasFragment isLeast => exact .input hasVertex hasFragment isLeast

end

section

variable {State : Type} (analyse : State → String → Stage → Verdict × State) (state : State)
  (vertex fragment : StageModule)

/-- The compiler links two stages by their varyings. -/
theorem link_eq : ((compiler analyse).link state vertex fragment).1 =
    ((varyings vertex.module fragment.module).map fun read =>
      ⟨fragment.module, fragment.stage, read⟩).mapError LinkError.message := by
  simp only [compiler]
  cases varyings vertex.module fragment.module with
  | ok read => rfl
  | error error => rfl

/-- The compiler links exactly where linking answers well, and keeps the fragment stage. -/
theorem link_eq_ok_iff {program : Program} :
    ((compiler analyse).link state vertex fragment).1 = .ok program ↔
      ∃ read, varyings vertex.module fragment.module = .ok read ∧
        program = ⟨fragment.module, fragment.stage, read⟩ := by
  rw [link_eq]
  cases varyings vertex.module fragment.module with
  | ok read => simp [Except.map, Except.mapError, eq_comm]
  | error error => simp [Except.map, Except.mapError]

/-- The compiler refuses to link exactly where linking complains, with its message. -/
theorem link_eq_error_iff {message : String} :
    ((compiler analyse).link state vertex fragment).1 = .error message ↔
      ∃ error, varyings vertex.module fragment.module = .error error ∧
        message = error.message := by
  rw [link_eq]
  cases varyings vertex.module fragment.module with
  | ok read => simp [Except.map, Except.mapError]
  | error error => simp [Except.map, Except.mapError, eq_comm]

end

/-- Modules are linked by their interfaces, whatever the front end and its state are. -/
theorem compiler_linksByInterface {State : Type}
    (analyse : State → String → Stage → Verdict × State) (state : State) :
    LinksByInterface fun vertex fragment =>
      ((compiler analyse).link state vertex fragment).1 where
  ok_iff vertex fragment := by
    rw [← (links_varyings vertex.module fragment.module).exists_ok_iff]
    simp only [link_eq_ok_iff]
    constructor
    · rintro ⟨-, read, answered, -⟩
      exact ⟨read, answered⟩
    · rintro ⟨read, answered⟩
      exact ⟨_, read, answered, rfl⟩
  program vertex fragment program linked := by
    obtain ⟨read, answered, rfl⟩ := (link_eq_ok_iff analyse state vertex fragment).1 linked
    have links := links_varyings vertex.module fragment.module
    rw [answered] at links
    cases links with
    | fits hasVertex hasFragment included inOrder mem_iff => exact ⟨rfl, rfl, inOrder, mem_iff⟩
  message vertex fragment message refused := by
    obtain ⟨error, answered, rfl⟩ := (link_eq_error_iff analyse state vertex fragment).1 refused
    have links := links_varyings vertex.module fragment.module
    rw [answered] at links
    exact links.blames
  regrouped vertex fragment otherVertex otherFragment vertexRegroups fragmentRegroups := by
    simp only [link_eq, varyings_eq_of_regroups vertexRegroups fragmentRegroups]
    cases varyings otherVertex.module otherFragment.module with
    | ok read => rfl
    | error error => rfl

end LiveShader.Glsl
