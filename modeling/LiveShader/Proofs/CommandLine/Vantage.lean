import LiveShader.Proofs.CommandLine.Envelope
import LiveShader.Proofs.Settings.Vantage
import LiveShader.Proofs.Watcher.HotReload

/-!
# The same answer from everywhere

A check that is given a settings file answers the same from every working directory, however
the path of the file is spelled: all that the answer says of files is said from the root, or
from the directory of the entry file. What the answer may differ in is how the entry is named,
and the wording of a failure.

The exceptions are the system's. One walk may cross so many links, and a way to the directory
that crosses some leaves fewer for the rest. A path may be so long, and so may that of a place on
the way to the entry. And a slash behind the name of the settings asks for a directory.
-/

namespace LiveShader

/-! ## Builds and checks -/

variable {State Compiled Program : Type} {first second : Workspace} {here there : Path}

namespace CommandLine

/-- Two checks that end alike: with summaries that differ in the name of the entry alone, or
with failures that are alike. -/
inductive CheckResult.Alike : CheckResult → CheckResult → Prop where
  | passed {entry entry' stage files lines} :
      Alike (.ok ⟨entry, stage, files, lines⟩) (.ok ⟨entry', stage, files, lines⟩)
  | failed {failure failure' shown shown'} (alike : failure.Alike failure') :
      Alike (.error (failure, shown)) (.error (failure', shown'))

variable {compiler : Compiler State Compiled Program} {state : State}

namespace Output

/-- Two outputs that a script can tell apart by how the entry is named and by the wording of a
failure alone. -/
structure Alike (first second : Output) : Prop where
  status : second.status = first.status
  ok : second.at? ["ok"] = first.at? ["ok"]
  files : second.at? ["files"] = first.at? ["files"]
  lines : second.at? ["lines"] = first.at? ["lines"]
  stage : second.at? ["stage"] = first.at? ["stage"]
  code : second.at? ["error", "code"] = first.at? ["error", "code"]
  kind : second.at? ["error", "kind"] = first.at? ["error", "kind"]
  details : second.at? ["error", "details"] = first.at? ["error", "details"]

end Output

variable {arguments arguments' : List String} {path path' : Path} {folder : Location} {name : Name}
  {fillers : List (List Char)} {stage : Stage} {format : Option DiagnosticFormat}

namespace Winding

/-- A path that stays where it is so many times before it takes a last step. -/
def idle : Nat → String → Path
  | 0, last => ⟨last⟩
  | count + 1, last => ⟨"./" ++ (idle count last).text⟩

/-- A link to the root, and links each of which leads along the one before it twice. -/
def links : List (Location × Entry) := [
  ([⟨"l0", by decide⟩], .link ⟨"."⟩),
  ([⟨"l1", by decide⟩], .link ⟨"l0/l0"⟩),
  ([⟨"l2", by decide⟩], .link ⟨"l1/l1"⟩),
  ([⟨"l3", by decide⟩], .link ⟨"l2/l2"⟩),
  ([⟨"l4", by decide⟩], .link ⟨"l3/l3"⟩)]

def settings : Name := ⟨"c.yaml", by decide⟩

def inner : Location := [⟨"sub", by decide⟩]

end Winding

end CommandLine

end LiveShader
