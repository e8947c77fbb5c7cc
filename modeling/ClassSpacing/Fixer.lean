import ClassSpacing.Edit
import ClassSpacing.Rule

/-!
# Fixing a source

The fixes of one check can overlap: a member's fix covers its whole text, and so the members of a
class nested inside it. A pass applies a subset without overlaps, from the last one to the first;
then the source is checked again, until nothing fixable is left. A pass that would bring new faults
into the source is given up.
-/

namespace ClassSpacing

/-- Why a source or a file is not checked or not fixed. -/
inductive LintError where
  | emptySource
  | unsupportedFile (path : Path)
  | unreadable (path : Path) (fault : FileFault)
  | edit (cause : EditError)
deriving Repr, DecidableEq

/-- The words for an error. -/
def LintError.message : LintError → String
  | emptySource => "source is empty"
  | unsupportedFile path => s!"unsupported file type: {path.text}"
  | unreadable path fault => s!"I/O error reading {path.text}: {fault.message}"
  | edit cause => s!"failed to write fixes: {cause.message}"

/-- The verdicts on the members of a source. The empty source is refused. -/
def Rule.verdictsOn (rule : Rule) (read : Reader) (dialect : Dialect) (source : Text) :
    Except LintError (List Verdict) :=
  if source.isEmpty then .error .emptySource else .ok (rule.verdicts source (read dialect source))

/-- Reads and checks a source. -/
def Rule.lint (rule : Rule) (read : Reader) (dialect : Dialect) (source : Text) :
    Except LintError (List Diagnostic) :=
  return (← rule.verdictsOn read dialect source).filterMap (·.diagnostic?)

namespace Fix

/-- Earlier fixes first; of those with the same start, longer ones first. -/
def precedes (f g : Fix) : Bool :=
  f.offset < g.offset || (f.offset == g.offset && g.length ≤ f.length)

/-- Takes each fix that does not overlap the one taken before it. -/
def selectAfter (last? : Option Fix) : List Fix → List Fix
  | [] => []
  | f :: rest =>
    if last?.any (·.overlaps f) then
      selectAfter last? rest
    else
      f :: selectAfter (some f) rest

/-- The fixes that one pass applies, from the first to the last. -/
def select (fixes : List Fix) : List Fix :=
  selectAfter none (fixes.mergeSort precedes)

/-- The edit that makes a fix of the given source. -/
def toEdit (file : Path) (source : Text) (f : Fix) : Edit :=
  .make file f.offset f.stop f.replacement ((source.slice? f.offset f.stop).getD [])

end Fix

/-- The result of one pass. -/
structure FixPass where
  text : Text
  applied : Nat
  /-- The number of fixes left out. -/
  skipped : Nat
deriving Repr, DecidableEq

/-- Applies those fixes of some diagnostics that a pass selects. They are applied from the last to
    the first, so that the offsets of the others stay right. -/
def applyFixes (file : Path) (source : Text) (diagnostics : List Diagnostic) :
    Except LintError FixPass :=
  let fixes := diagnostics.filterMap (·.fix?)
  let selected := Fix.select fixes
  let step (text : Text) (f : Fix) : Except EditError Text := (f.toEdit file source).applyTo text
  match selected.reverse.foldlM step source with
  | .ok text => .ok { text, applied := selected.length, skipped := fixes.length - selected.length }
  | .error cause => .error (.edit cause)

/-- What happened while a source was fixed. -/
inductive FixStep where
  /-- The text was checked. -/
  | checked (verdicts : List Verdict)
  /-- A pass was given up for the faults it would bring. -/
  | rejected (cause : SourceError)
  /-- A pass was made, the `number`th one. -/
  | passed (number applied skipped : Nat)
deriving Repr, DecidableEq

/-- The result of fixing a source. -/
structure FixOutcome where
  text : Text
  passes : Nat
  applied : Nat
  /-- The complaints about `text`. -/
  remaining : List Diagnostic
  /-- What happened, latest step first. -/
  history : List FixStep
deriving Repr, DecidableEq

namespace FixOutcome

/-- Whether the text is a new one. -/
def changed (o : FixOutcome) (source : Text) : Bool :=
  o.text != source

end FixOutcome

/-- The most passes over one source. -/
def maxFixPasses : Nat := 10

/-- What all passes over a source share. -/
structure FixTask where
  rule : Rule
  read : Reader
  dialect : Dialect
  file : Path

namespace FixTask

/-- Makes passes until nothing fixable is left, a pass brings new faults or changes nothing, or
    `budget` passes are made. -/
def run (task : FixTask) : Nat → FixOutcome → Except LintError FixOutcome
  | 0, state => .ok state
  | budget + 1, state => do
    if !state.remaining.any (·.isFixable) then
      return state
    let pass ← applyFixes task.file state.text state.remaining
    match task.read.validateChange task.dialect state.text pass.text with
    | .error cause => return { state with history := .rejected cause :: state.history }
    | .ok () =>
      let passes := state.passes + 1
      let state := { state with
        passes
        applied := state.applied + pass.applied
        history := .passed passes pass.applied pass.skipped :: state.history }
      if pass.text = state.text then
        return state
      let verdicts ← task.rule.verdictsOn task.read task.dialect pass.text
      run task budget { state with
        text := pass.text
        remaining := verdicts.filterMap (·.diagnostic?)
        history := .checked verdicts :: state.history }

/-- Checks and fixes a source. -/
def fix (task : FixTask) (source : Text) : Except LintError FixOutcome := do
  let verdicts ← task.rule.verdictsOn task.read task.dialect source
  task.run maxFixPasses {
    text := source, passes := 0, applied := 0
    remaining := verdicts.filterMap (·.diagnostic?)
    history := [.checked verdicts] }

end FixTask

end ClassSpacing
