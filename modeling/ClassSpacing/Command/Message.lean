import ClassSpacing.Command.Check
import ClassSpacing.Command.Fix
import ClassSpacing.Diff.Lines

/-!
# What a run says

A run is data; here it is put into words. Results go to the standard output, failures and the log to
the standard error output. The messages are in the order in which things happened.
-/

namespace ClassSpacing.Command

open Report (Palette)

/-- Something that the program says. -/
inductive Message where
  /-- A text for the standard output. -/
  | result (text : String)
  /-- A text for the standard error output. -/
  | failure (text : String)
  /-- An entry of the log. -/
  | log (event : Event)
deriving Repr, DecidableEq

/-- How much is said, and in which colours. -/
structure Manner where
  palette : Palette := .plain
  verbosity : Nat := 0
  quiet : Bool := false
deriving Repr, DecidableEq

namespace Manner

/-- Says something, unless only problems are of interest. -/
def unlessQuiet (m : Manner) (messages : List Message) : List Message :=
  if m.quiet then [] else messages

/-- A painted line of the standard output. -/
def painted (m : Manner) (style : Report.Style) (text : String) : Message :=
  .result (m.palette.paint style text ++ "\n")

/-- What is said if the rule is switched off. -/
def switchedOff (m : Manner) : List Message :=
  m.unlessQuiet [m.painted (.colour .yellow) s!"{ruleName} is disabled"]

/-- What is said about a file that failed. -/
def failed (m : Manner) (path : Path) (reason : String) : Message :=
  let cross := m.palette.paint (.colour .red) "✗"
  .failure s!"{cross} {path.text}: {reason}\n"

/-! ## Checking -/

/-- What is said about one checked file. -/
def checkedFile (m : Manner) (format : OutputFormat) (rule : Rule) : CheckedFile → List Message
  | (path, .error cause) => [m.failed path cause.message]
  | (_, .ok linted) =>
    (Event.ofLinted rule linted).map .log ++
      match format with
      | .text => [.result (Report.text m.palette linted.path linted.diagnostics)]
      | .json => []

/-- The totals in the colour of the worst problem. -/
def totals (m : Manner) (s : Report.Summary) : Message :=
  let style : Report.Style :=
    if s.hasErrors then .boldColour .red
    else if 0 < s.warnings then .colour .yellow
    else .colour .green
  m.painted style s.describe

/-- What is said after all files were checked. -/
def checkEnd (m : Manner) (format : OutputFormat) (run : CheckRun) : List Message :=
  match format with
  | .json =>
    let files := run.linted.map fun f => (f.path, f.diagnostics)
    [.result (String.ofList (Report.json files) ++ "\n")]
  | .text => m.unlessQuiet [.result "\n", m.totals run.summary]

/-- What is said about checked files. -/
def checkRun (m : Manner) (format : OutputFormat) (run : CheckRun) : List Message :=
  run.results.flatMap (m.checkedFile format run.rule) ++ m.checkEnd format run

/-! ## Differences -/

/-- The number of lines around a difference. -/
def diffContext : Nat := 2

/-- A line of the differences. One that lacks its end gets it, and is followed by an empty line. -/
def diffLine (m : Manner) (fate : Diff.Fate) (line : String) : String :=
  let unfinished := Diff.isUnfinished line
  let line := if unfinished then line ++ "\n" else line
  let shown := match fate with
    | .stays => " " ++ line
    | .goes => m.palette.paint (.colour .red) ("-" ++ line)
    | .comes => m.palette.paint (.colour .green) ("+" ++ line)
  if unfinished then shown ++ "\n" else shown

/-- The differences between the two versions of a file. -/
def differences (m : Manner) (path : Path) (old new : Text) : String :=
  let dimmed (text : String) : String := m.palette.paint .dimmed text ++ "\n"
  let groups := (Diff.differences diffContext old new).map fun group =>
    String.join (group.map fun (fate, line) => m.diffLine fate line)
  dimmed s!"--- {path.text} (original)" ++ dimmed s!"+++ {path.text} (fixed)" ++
    (dimmed "...").intercalate groups

/-! ## Fixing -/

/-- What happened to a file that was fixed, up to writing it. -/
def fixSteps (m : Manner) (showDiff : Bool) (rule : Rule) (path : Path) (f : FileFix) :
    List Message :=
  let changed := f.text != f.checked.source
  (Event.ofLinted rule f.checked).map .log ++
    (f.outcome?.toList.flatMap (Event.ofOutcome rule path)).map .log ++
    if showDiff && changed then [.result (m.differences path f.checked.source f.text)] else []

/-- The reasons of a failed edit, the bottom last. -/
def editReasons (e : EditError) : List String :=
  match e with
  | .notUtf8 fault => [e.message, fault.message]
  | e => [e.message]

/-- The reasons of a failed check, the bottom last. -/
def lintReasons (e : LintError) : List String :=
  match e with
  | .unreadable _ fault => [e.message, fault.message]
  | .edit cause => e.message :: editReasons cause
  | e => [e.message]

/-- What is said about one file. -/
def fixedFile (m : Manner) (dryRun showDiff : Bool) (rule : Rule) : FixedFile → List Message
  | (path, .error (.lint cause)) => [m.failed path (": ".intercalate (lintReasons cause))]
  | (path, .error (.write f cause)) =>
    m.fixSteps showDiff rule path f ++
      [m.failed path (": ".intercalate (s!"failed to write {path.text}" :: lintReasons cause))]
  | (path, .ok f) =>
    let check := m.palette.paint (.colour .green) "✓"
    let verb := if dryRun then "Would fix" else "Fixed"
    let line := Message.result s!"{check} {verb} {path.text} ({f.applied} fix(es))\n"
    m.fixSteps showDiff rule path f ++ f.written?.toList.map (.log ∘ Event.wroteFile) ++
      (if 0 < f.applied then m.unlessQuiet [line] else []) ++
      [.result (Report.text m.palette path f.remaining)]

/-- What is said after all files were fixed. -/
def fixEnd (m : Manner) (run : FixRun) : List Message :=
  let count (c : Report.Colour) (n : Nat) : String := m.palette.paint (.colour c) (toString n)
  m.unlessQuiet [
    .result "\n",
    m.painted .bold "Summary:",
    .result s!"  {count .green run.applied} fix(es) in {run.changedFiles} file(s)\n",
    .result s!"  {count .yellow run.summary.problems} problem(s) remaining\n",
    .result s!"  {count .red run.failures} failed\n"]

/-- What is said about fixed files. -/
def fixRun (m : Manner) (dryRun showDiff : Bool) (run : FixRun) : List Message :=
  run.results.flatMap (m.fixedFile dryRun showDiff run.rule) ++ m.fixEnd run

/-- What is said before files are fixed. -/
def fixStart (m : Manner) (dryRun : Bool) : List Message :=
  if dryRun then m.unlessQuiet [m.painted (.colour .cyan) "[DRY RUN - no files will be modified]"]
  else []

end Manner

end ClassSpacing.Command
