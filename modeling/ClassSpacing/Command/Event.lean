import ClassSpacing.Text.Quoted
import ClassSpacing.Workspace.Files

/-!
# The log

The program logs what it does as events. An event has a level, the part of the program that it comes
from, a message and some named values; the verbosity decides which events are shown and how.
-/

namespace ClassSpacing.Command

/-- How much an event matters, the most important first. -/
inductive Level where
  | warn
  | info
  | debug
  | trace
deriving Repr, DecidableEq, Inhabited

namespace Level

/-- The name of a level, in five columns. -/
def label : Level → String
  | warn => " WARN"
  | info => " INFO"
  | debug => "DEBUG"
  | trace => "TRACE"

/-- The verbosity from which on a level is shown. -/
def threshold : Level → Nat
  | warn => 0
  | info => 1
  | debug => 2
  | trace => 3

end Level

/-- A part of the program. -/
inductive Origin where
  | program
  | config
  | lint
  | rule
  | fixer
deriving Repr, DecidableEq, Inhabited

/-- The name of a part in the log. -/
def Origin.name : Origin → String
  | program => "member_spacing"
  | config => "member_spacing::config::loader"
  | lint => "member_spacing::lint"
  | rule => "member_spacing::lint::rule"
  | fixer => "member_spacing::lint::fixer"

/-- Something that happened. -/
structure Event where
  level : Level
  origin : Origin
  message : String
  fields : List (String × String) := []
deriving Repr, DecidableEq

namespace Event

/-- Whether an event is shown. -/
def isShown (verbosity : Nat) (quiet : Bool) (e : Event) : Bool :=
  !quiet && e.level.threshold ≤ verbosity

/-- An event as a line. The part of the program is named from the second step of verbosity on. -/
def line (verbosity : Nat) (e : Event) : String :=
  let origin := if 1 < verbosity then s!"{e.origin.name}: " else ""
  let fields := e.fields.map fun (name, value) => s!" {name}={value}"
  s!"{e.level.label} {origin}{e.message}" ++ String.join fields ++ "\n"

/-! ## Settings and files -/

/-- A configuration file is used. -/
def usingConfig (path : Path) : Event :=
  { level := .info, origin := .program, message := "using config", fields := [("path", path.text)] }

/-- A configuration file was read. -/
def loadedConfig (path : Path) (config : Config) : Event :=
  { level := .debug, origin := .config, message := "loaded lint config"
    fields := [("path", path.text), ("rules", toString config.rules.length)] }

/-- The settings of the rule, field by field. -/
def settingsText (s : Settings) : String :=
  let severity := match s.severity with
    | .error => "Error"
    | .warning => "Warning"
  let option := match s.option? with
    | some value => "Some(" ++ String.ofList (Text.quoted value.toList) ++ ")"
    | none => "None"
  s!"RuleSettings \x7b enabled: {s.enabled}, severity: {severity}, option: {option} \x7d"

/-- The settings of the rule are known. -/
def resolvedSettings (s : Settings) : Event :=
  { level := .debug, origin := .program, message := "resolved rule settings"
    fields := [("settings", settingsText s)] }

/-- The rule is switched on. -/
def ruleEnabled (rule : Rule) : Event :=
  { level := .info, origin := .program, message := "rule enabled"
    fields := [("spacing", rule.spacing.describe), ("severity", rule.severity.name)] }

/-- A path leads to a file of another kind. -/
def skippedFile (path : Path) : Event :=
  { level := .warn, origin := .program, message := "not a TypeScript or JavaScript file, skipping"
    fields := [("path", path.text)] }

/-- The files to look at are known. -/
def collectedFiles (files : List Path) : Event :=
  { level := .debug, origin := .program, message := "collected files"
    fields := [("count", toString files.length)] }

/-! ## Checking -/

/-- The outcome of a measurement. -/
def outcomeText : Outcome → String
  | .satisfied => "Satisfied"
  | .shortfall n => s!"Shortfall({n})"
  | .excess n => s!"Excess({n})"
  | .invalidOption => "InvalidConfig"

/-- A member is exempt. -/
def exempt (message field : String) (value : Nat) : Event :=
  { level := .trace, origin := .rule, message, fields := [(field, toString value)] }

/-- A member was looked at. -/
def ofVerdict? (rule : Rule) : Verdict → Option Event
  | .misplaced => none
  | .sharesLine anchor =>
    some (exempt "member does not start its line, skipping" "anchor" anchor)
  | .onHeaderLine line => some (exempt "member shares the class header line" "anchor_line" line)
  | .belowHeader line => some (exempt "first member below the class header" "anchor_line" line)
  | .belowOpeningBrace line => some (exempt "member below an opening brace" "anchor_line" line)
  | .measured line outcome _ => some {
      level := .debug, origin := .rule, message := "checked member spacing"
      fields := [("line", toString (line + 1)), ("spacing", rule.spacing.describe),
        ("outcome", outcomeText outcome)] }

/-- A file was checked, member by member. -/
def ofLinted (rule : Rule) (f : LintedFile) : List Event :=
  f.verdicts.filterMap (ofVerdict? rule) ++ [{
    level := .debug, origin := .lint, message := "linted file"
    fields := [("path", f.path.text), ("count", toString f.diagnostics.length)] }]

/-! ## Fixing -/

/-- A step of fixing a file. -/
def ofFixStep (rule : Rule) (file : Path) : FixStep → List Event
  | .checked verdicts => verdicts.filterMap (ofVerdict? rule)
  | .rejected cause => [{
      level := .warn, origin := .fixer, message := "fix would introduce a syntax error, stopping"
      fields := [("file", file.text), ("err", cause.message)] }]
  | .passed number applied skipped => [{
      level := .debug, origin := .fixer, message := "applied fix pass"
      fields := [("file", file.text), ("pass", toString number), ("applied", toString applied),
        ("skipped", toString skipped)] }]

/-- All steps of fixing a file. -/
def ofOutcome (rule : Rule) (file : Path) (o : FixOutcome) : List Event :=
  o.history.reverse.flatMap (ofFixStep rule file)

/-- A byte that is not a part of a text, between quotes. -/
def quotedByte (b : UInt8) : Text :=
  ['\\', 'x', (Nat.digitChar (b.toNat / 16)).toUpper, (Nat.digitChar (b.toNat % 16)).toUpper]

/-- A path between quotes. -/
def quotedPath (path : Path) : String :=
  String.ofList <| '"' :: path.raw.allStretches.flatMap (fun (t, blamed) =>
    t.flatMap Text.quotedChar ++ blamed.flatMap quotedByte) ++ ['"']

/-- A fixed file was written. -/
def wroteFile (result : EditResult) : Event :=
  let text := match result with
    | .applied file bytes =>
      s!"Applied \x7b file: {quotedPath file}, bytes_changed: {bytes} \x7d"
    | .alreadyApplied file => s!"AlreadyApplied \x7b file: {quotedPath file} \x7d"
  { level := .debug, origin := .program, message := "wrote fixed file"
    fields := [("result", text)] }

end Event

end ClassSpacing.Command
