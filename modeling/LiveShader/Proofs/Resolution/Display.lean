import LiveShader.Proofs.Path.Display
import LiveShader.Proofs.Resolution.Closure

/-!
# Names tell the files of a unit apart

The files of a unit are shown by their paths below the directory of the entry, and those that
lie outside by their whole paths. No two files are shown alike, and from that directory the name
of a file leads to it (`NamesFiles`).
-/

namespace LiveShader

namespace Draft

end Draft

namespace Workspace

variable {workspace : Workspace} {limits : ResolutionLimits} {entry : Path}
  {resolution : Resolution}

/-- The directory from which the files of a unit are shown. -/
def Course.root (course : workspace.Course entry limits resolution) : Location :=
  course.location.dropLast

namespace Course

variable (course : workspace.Course entry limits resolution)

end Course

namespace Scattered

end Scattered

end Workspace

end LiveShader
