import LiveShader.Compiler

/-!
# Interfaces between shader stages

A fragment stage reads numbered locations that the vertex stage must write. `link`
compares the two sets of locations: it succeeds exactly if all that is read is written,
and otherwise blames the smallest location that is not.
-/

namespace LiveShader.Glsl

/-- What an argument, a result or a member of a struct is bound to. -/
inductive Binding where
  | location (number : Nat)
  | builtin
deriving DecidableEq

/-- An argument, a result or a member: a single value or a struct. -/
inductive Slot where
  | value (binding : Option Binding)
  | struct (binding : Option Binding) (members : List Slot)
deriving Inhabited

/-- The stage of an entry point. -/
inductive EntryStage where
  | vertex
  | fragment
  | compute
deriving DecidableEq

/-- An entry point of a module. -/
structure EntryPoint where
  stage : EntryStage
  arguments : List Slot
  result : Option Slot

/-- What a source means to the linker. -/
structure Module where
  entries : List EntryPoint

mutual

/-- The locations that a slot binds. A binding ends the descent, and only a struct
without one stands for its members. -/
def Slot.locations : Slot → List Nat
  | .value (some (.location number)) => [number]
  | .value _ => []
  | .struct (some (.location number)) _ => [number]
  | .struct (some .builtin) _ => []
  | .struct none members => Slot.allLocations members

/-- The locations that slots bind. -/
def Slot.allLocations : List Slot → List Nat
  | [] => []
  | slot :: slots => slot.locations ++ Slot.allLocations slots

end

/-- A number added to an increasing list that may hold it already. -/
def insertSorted (number : Nat) : List Nat → List Nat
  | [] => [number]
  | head :: tail =>
    if number < head then number :: head :: tail
    else if number = head then head :: tail
    else head :: insertSorted number tail

/-- The members of a list in increasing order, each once. -/
def increasing (numbers : List Nat) : List Nat :=
  numbers.foldr insertSorted []

namespace Module

/-- The first entry point of a stage. -/
def entryPoint? (module : Module) (stage : EntryStage) : Option EntryPoint :=
  module.entries.find? (·.stage = stage)

/-- The locations that the first entry point of a stage reads. -/
def inputs? (module : Module) (stage : EntryStage) : Option (List Nat) :=
  (module.entryPoint? stage).map fun entry => increasing (Slot.allLocations entry.arguments)

/-- The locations that the first entry point of a stage writes. -/
def outputs? (module : Module) (stage : EntryStage) : Option (List Nat) :=
  (module.entryPoint? stage).map fun entry => increasing (Slot.allLocations entry.result.toList)

end Module

/-- Why two stages do not fit. -/
inductive LinkError where
  | noVertexEntry
  | noFragmentEntry
  | unmatchedInput (location : Nat)
deriving DecidableEq

/-- The wording of a link error. -/
def LinkError.message : LinkError → String
  | .noVertexEntry => "vertex stage has no entry point"
  | .noFragmentEntry => "fragment stage has no entry point"
  | .unmatchedInput location =>
    "fragment input at location " ++ toString location ++ " has no matching vertex output"

/-- A fragment stage that fits its vertex stage, and the locations it reads. -/
structure Program where
  fragment : Module
  stage : Stage
  varyings : List Nat

/-- The locations that a fragment module reads from a vertex module. -/
def varyings (vertex fragment : Module) : Except LinkError (List Nat) :=
  match vertex.outputs? .vertex with
  | none => .error .noVertexEntry
  | some written =>
    match fragment.inputs? .fragment with
    | none => .error .noFragmentEntry
    | some read =>
      match read.find? fun location => !written.contains location with
      | some location => .error (.unmatchedInput location)
      | none => .ok read

end LiveShader.Glsl
