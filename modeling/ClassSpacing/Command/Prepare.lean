import ClassSpacing.Command.Arguments
import ClassSpacing.Command.Event
import ClassSpacing.Workspace.Collect

/-!
# Before files are looked at

Every command first finds out which rule to apply, from the configuration and from the command line,
and then which files to look at.
-/

namespace ClassSpacing.Command

/-- What a command can do nothing about. -/
inductive Obstacle where
  | config (cause : ConfigError)
  | files (cause : Workspace.CollectFault)
deriving Repr, DecidableEq

/-- A text of several lines, each moved to the right. -/
def indented (text : String) : String :=
  "    " ++ text.replace "\n" "\n    "

/-- Several causes, each on a line with its number. -/
def numbered : List String → String
  | [] => ""
  | causes =>
    "\nCaused by:\n" ++ String.join (causes.mapIdx fun place cause => s!"    {place}: {cause}\n")

/-- The words for an obstacle, and what is at the bottom of it. -/
def Obstacle.message : Obstacle → String
  | config cause => s!"Error: {cause.message}\n\nCaused by:\n{indented cause.cause}\n"
  | files cause => s!"Error: {cause.message}\n{numbered cause.causes}"

/-! ## The rule -/

/-- The configuration of a command. -/
structure Configured where
  /-- Where it comes from, if it is not just the default. -/
  path? : Option Path
  config : Config
deriving Repr, DecidableEq

namespace Selection

/-- The configuration file: the one that is named, or the nearest one. -/
def configPath? (s : Selection) (ws : Workspace) : Option Path :=
  s.config?.or (ws.discover? ws.currentPath)

/-- The configuration. Without a file, it is the default. -/
def configured (s : Selection) (ws : Workspace) : Except Obstacle Configured :=
  match s.configPath? ws with
  | none => .ok { path? := none, config := {} }
  | some path =>
    match ws.loadConfig path with
    | .ok config => .ok { path? := some path, config }
    | .error cause => .error (.config cause)

/-- The settings of the rule. A number of lines on the command line switches the rule on. -/
def settings (s : Selection) (config : Config) : Settings :=
  let settings := (config.settings? ruleName).getD {}
  match s.lines? with
  | some n => { settings with enabled := true, option? := some (toString n) }
  | none => settings

/-- The rule to apply, unless it is switched off. -/
def rule? (s : Selection) (ws : Workspace) : Except Obstacle (Option Rule) := do
  return (s.settings (← s.configured ws).config).toRule?

/-- The files to look at. -/
def files (s : Selection) (ws : Workspace) : Except Obstacle (List Path) :=
  match ws.collect s.paths with
  | .ok files => .ok files
  | .error cause => .error (.files cause)

/-- The rule and the files to apply it to, unless it is switched off. -/
def target? (s : Selection) (ws : Workspace) : Except Obstacle (Option (Rule × List Path)) := do
  match ← s.rule? ws with
  | none => return none
  | some rule => return some (rule, ← s.files ws)

/-! ## Its log -/

/-- What happens while the rule is found. -/
def ruleEvents (s : Selection) (ws : Workspace) : List Event :=
  let start := (s.configPath? ws).toList.map Event.usingConfig
  match s.configured ws with
  | .error _ => start
  | .ok configured =>
    let settings := s.settings configured.config
    start ++ configured.path?.toList.map (Event.loadedConfig · configured.config) ++
      [Event.resolvedSettings settings] ++ settings.toRule?.toList.map Event.ruleEnabled

/-- What happens while the files are found. Nothing more happens behind a path for which they cannot
    be collected. -/
def fileEvents (s : Selection) (ws : Workspace) : List Event :=
  let reached := s.paths.takeWhile (ws.collectFault? · |>.isNone)
  let skipped := (reached.filter (ws.isForeign ·)).map Event.skippedFile
  match ws.collect s.paths with
  | .ok files => skipped ++ [Event.collectedFiles files]
  | .error _ => skipped

end Selection

end ClassSpacing.Command
