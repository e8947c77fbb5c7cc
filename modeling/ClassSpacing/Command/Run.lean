import ClassSpacing.Command.Message

/-!
# Running the program

A run of the program takes the words of a command line and a workspace. It ends with an exit code,
with what was said, and with a workspace that may have changed.
-/

namespace ClassSpacing.Command

open Report (Palette)

/-- The end of a run. -/
structure Ending where
  code : Nat
  messages : List Message
  workspace : Workspace
deriving Repr

/-- Shows a notice. Only what was asked for goes to the standard output. -/
def Notice.ending (palette : Palette) (ws : Workspace) : Notice → Ending
  | help topic =>
    { code := 0, messages := [.result (topic.markup.render palette)], workspace := ws }
  | version => { code := 0, messages := [.result versionText], workspace := ws }
  | nothingGiven =>
    let text := (HelpTopic.scope .program).markup.render palette
    { code := 2, messages := [.failure text], workspace := ws }
  | refused r => { code := 2, messages := [.failure (r.markup.render palette)], workspace := ws }

/-- What happens up to the point where files are looked at: the search for the rule, then `middle`,
    then the search for the files, which only starts if the rule is switched on. -/
def Manner.start (s : Selection) (ws : Workspace) (middle : List Message) : List Message :=
  let events := (s.ruleEvents ws).map Message.log
  match s.rule? ws with
  | .ok (some _) => events ++ middle ++ (s.fileEvents ws).map .log
  | _ => events

/-- Runs the check command. -/
def runCheck (m : Manner) (read : Reader) (format : OutputFormat) (s : Selection) (ws : Workspace) :
    Ending :=
  let start := Manner.start s ws []
  match check read s ws with
  | .error obstacle =>
    { code := 1, messages := start ++ [.failure obstacle.message], workspace := ws }
  | .ok none => { code := 0, messages := start ++ m.switchedOff, workspace := ws }
  | .ok (some run) =>
    { code := run.exitCode, messages := start ++ m.checkRun format run, workspace := ws }

/-- Runs the fix command. -/
def runFix (m : Manner) (read : Reader) (dryRun showDiff : Bool) (s : Selection) (ws : Workspace) :
    Ending :=
  let start := Manner.start s ws (m.fixStart dryRun)
  match fix read dryRun s ws with
  | .error obstacle =>
    { code := 1, messages := start ++ [.failure obstacle.message], workspace := ws }
  | .ok none => { code := 0, messages := start ++ m.switchedOff, workspace := ws }
  | .ok (some run) =>
    { code := run.exitCode, messages := start ++ m.fixRun dryRun showDiff run
      workspace := run.workspace }

/-- Runs what a command line asks for. -/
def Invocation.run (i : Invocation) (palette : Palette) (read : Reader) (ws : Workspace) : Ending :=
  let m : Manner := { palette, verbosity := i.verbosity, quiet := i.quiet }
  let ending := match i.action with
    | .check format => runCheck m read format i.selection ws
    | .fix dryRun showDiff => runFix m read dryRun showDiff i.selection ws
  { ending with messages := ending.messages.filterMap fun
      | .log event =>
        if event.isShown i.verbosity i.quiet then some (.failure (event.line i.verbosity)) else none
      | message => some message }

/-- Runs the program. -/
def run (palette : Palette) (read : Reader) (arguments : List String) (ws : Workspace) : Ending :=
  match readArguments arguments with
  | .error notice => notice.ending palette ws
  | .ok invocation => invocation.run palette read ws

namespace Ending

/-- What was written to the standard output. -/
def output (e : Ending) : String :=
  String.join (e.messages.filterMap fun
    | .result text => some text
    | _ => none)

/-- What was written to the standard error output. -/
def errors (e : Ending) : String :=
  String.join (e.messages.filterMap fun
    | .failure text => some text
    | _ => none)

end Ending

end ClassSpacing.Command
