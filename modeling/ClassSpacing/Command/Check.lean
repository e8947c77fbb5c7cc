import ClassSpacing.Command.Prepare
import ClassSpacing.Report.Render

/-!
# The check command

Each file is checked on its own. A file that cannot be read does not stop the others; the run as a
whole fails if there was one, or an error was found.
-/

namespace ClassSpacing.Command

/-- A file, and what came of it. -/
abbrev CheckedFile := Path × Except LintError LintedFile

/-- What came of all files. -/
structure CheckRun where
  rule : Rule
  results : List CheckedFile
deriving Repr

/-- Checks some files. -/
def checkFiles (ws : Workspace) (read : Reader) (rule : Rule) (files : List Path) :
    List CheckedFile :=
  files.map fun path => (path, ws.lintFile read rule path)

/-- Checks the selected files, unless the rule is switched off. -/
def check (read : Reader) (s : Selection) (ws : Workspace) : Except Obstacle (Option CheckRun) := do
  match ← s.target? ws with
  | none => return none
  | some (rule, files) => return some { rule, results := checkFiles ws read rule files }

namespace CheckRun

/-- The files that were checked. -/
def linted (run : CheckRun) : List LintedFile :=
  run.results.filterMap fun (_, result) => result.toOption

/-- The number of files that could not be checked. -/
def failures (run : CheckRun) : Nat :=
  run.results.countP fun (_, result) => !result.isOk

/-- The totals over the files that were checked. -/
def summary (run : CheckRun) : Report.Summary :=
  .ofFiles (run.linted.map (·.diagnostics))

/-- The exit code: one if something is wrong. -/
def exitCode (run : CheckRun) : Nat :=
  if run.summary.hasErrors || 0 < run.failures then 1 else 0

end CheckRun

end ClassSpacing.Command
