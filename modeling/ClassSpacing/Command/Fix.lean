import ClassSpacing.Command.Prepare
import ClassSpacing.Report.Summary

/-!
# The fix command

The files are fixed one after the other, each in the workspace that the ones before have left. A
file without anything that can be fixed is only checked. A trial run does everything but writing.
-/

namespace ClassSpacing.Command

/-- What came of one file. -/
structure FileFix where
  /-- The file as it was found. -/
  checked : LintedFile
  /-- The result of fixing it, if it had something to fix. -/
  outcome? : Option FixOutcome := none
  /-- What writing it came to, if it was written. -/
  written? : Option EditResult := none
deriving Repr, DecidableEq

namespace FileFix

/-- The number of fixes. -/
def applied (f : FileFix) : Nat :=
  (f.outcome?.map (·.applied)).getD 0

/-- The complaints that are left. -/
def remaining (f : FileFix) : List Diagnostic :=
  (f.outcome?.map (·.remaining)).getD f.checked.diagnostics

/-- The text that the file has in the end, or would have. -/
def text (f : FileFix) : Text :=
  (f.outcome?.map (·.text)).getD f.checked.source

end FileFix

/-- Why a file was not fixed. -/
inductive FixFailure where
  | lint (cause : LintError)
  /-- The fixed text could not be written. -/
  | write (fix : FileFix) (cause : LintError)
deriving Repr, DecidableEq

/-- Fixes a text that was checked. -/
def fixText (read : Reader) (rule : Rule) (checked : LintedFile) : Except LintError FileFix :=
  if checked.diagnostics.any (·.isFixable) then do
    let task : FixTask := { rule, read, dialect := checked.dialect, file := checked.path }
    return { checked, outcome? := some (← task.fix checked.source) }
  else
    return { checked }

/-- Checks and fixes a file, without writing it. -/
def planFix (ws : Workspace) (read : Reader) (rule : Rule) (path : Path) :
    Except LintError FileFix := do
  fixText read rule (← ws.lintFile read rule path)

/-- Writes a fixed file, if it has a new text. -/
def writeFix (ws : Workspace) (path : Path) (fix : FileFix) :
    Except FixFailure FileFix × Workspace :=
  if fix.text = fix.checked.source then
    (.ok fix, ws)
  else
    match ws.writeFixed path fix.checked.source fix.text with
    | .ok (result, ws) => (.ok { fix with written? := some result }, ws)
    | .error cause => (.error (.write fix cause), ws)

/-- Fixes a file. -/
def fixFile (read : Reader) (rule : Rule) (dryRun : Bool) (ws : Workspace) (path : Path) :
    Except FixFailure FileFix × Workspace :=
  match planFix ws read rule path with
  | .error cause => (.error (.lint cause), ws)
  | .ok fix => if dryRun then (.ok fix, ws) else writeFix ws path fix

/-- A file, and what came of it. -/
abbrev FixedFile := Path × Except FixFailure FileFix

/-- Fixes some files, one after the other. -/
def fixFiles (read : Reader) (rule : Rule) (dryRun : Bool) (ws : Workspace) :
    List Path → List FixedFile × Workspace
  | [] => ([], ws)
  | path :: rest =>
    let (result, ws) := fixFile read rule dryRun ws path
    let (results, ws) := fixFiles read rule dryRun ws rest
    ((path, result) :: results, ws)

/-- What came of all files. -/
structure FixRun where
  rule : Rule
  results : List FixedFile
  /-- The workspace after the run. -/
  workspace : Workspace
deriving Repr

/-- Fixes the selected files, unless the rule is switched off. -/
def fix (read : Reader) (dryRun : Bool) (s : Selection) (ws : Workspace) :
    Except Obstacle (Option FixRun) := do
  match ← s.target? ws with
  | none => return none
  | some (rule, files) =>
    let (results, workspace) := fixFiles read rule dryRun ws files
    return some { rule, results, workspace }

namespace FixRun

/-- The files that were fixed or needed no fix. -/
def fixed (run : FixRun) : List FileFix :=
  run.results.filterMap fun (_, result) => result.toOption

/-- The number of files that could not be fixed. -/
def failures (run : FixRun) : Nat :=
  run.results.countP fun (_, result) => !result.isOk

/-- The number of files with fixes. -/
def changedFiles (run : FixRun) : Nat :=
  run.fixed.countP fun f => 0 < f.applied

/-- The number of fixes. -/
def applied (run : FixRun) : Nat :=
  run.fixed.foldl (fun count f => count + f.applied) 0

/-- The totals over what is left. -/
def summary (run : FixRun) : Report.Summary :=
  .ofFiles (run.fixed.map (·.remaining))

/-- The exit code: one if something is wrong. -/
def exitCode (run : FixRun) : Nat :=
  if run.summary.hasErrors || 0 < run.failures then 1 else 0

end FixRun

end ClassSpacing.Command
