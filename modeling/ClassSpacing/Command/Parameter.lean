import ClassSpacing.Command.Markup

/-!
# Parameters of the command line

The program has two commands, each with its own parameters; two parameters are common to the program
and its commands.
-/

namespace ClassSpacing.Command

/-- A part of the command line that has its own parameters. -/
inductive Scope where
  | program
  | check
  | fix
deriving Repr, DecidableEq, Inhabited

/-- Something that can be given on the command line. -/
inductive Parameter where
  | verbose
  | quiet
  | help
  | version
  | config
  | lines
  | format
  | dryRun
  | diff
  /-- The files and directories, which need no name. -/
  | paths
deriving Repr, DecidableEq, Inhabited

namespace Parameter

/-- The name behind two dashes. -/
def long : Parameter → String
  | verbose => "verbose"
  | quiet => "quiet"
  | help => "help"
  | version => "version"
  | config => "config"
  | lines => "lines"
  | format => "format"
  | dryRun => "dry-run"
  | diff => "diff"
  | paths => ""

/-- The letter behind one dash. -/
def short? : Parameter → Option Char
  | verbose => some 'v'
  | quiet => some 'q'
  | help => some 'h'
  | version => some 'V'
  | config => some 'c'
  | lines => some 'l'
  | format => some 'f'
  | dryRun => some 'n'
  | diff => some 'd'
  | paths => none

/-- What the value of a parameter is called, if it takes one. -/
def valueName? : Parameter → Option String
  | config => some "CONFIG"
  | lines => some "N"
  | format => some "FORMAT"
  | _ => none

/-- The values that may be chosen from. -/
def choices : Parameter → List String
  | format => ["text", "json"]
  | _ => []

/-- What a parameter is for. -/
def about : Parameter → String
  | verbose => "Log more (-v info, -vv debug, -vvv trace)"
  | quiet => "Only print problems, no summary"
  | help => "Print help"
  | version => "Print version"
  | config => "Config file (default: nearest member-spacing.toml or tslint.json)"
  | lines => "Require exactly N blank lines, overriding the config"
  | format => "Output format [default: text] [possible values: text, json]"
  | dryRun => "Dry run - show what would be changed without modifying files"
  | diff => "Show unified diff of changes"
  | paths => "Files or directories"

/-- A parameter as it is written on the command line. -/
def markup (p : Parameter) : Markup :=
  match p, p.valueName? with
  | verbose, _ => [(.literal, "--verbose"), (.plain, "...")]
  | paths, _ => say "[PATHS]..."
  | p, some value => [(.literal, s!"--{p.long}"), (.plain, s!" <{value}>")]
  | p, none => [(.literal, s!"--{p.long}")]

/-- A parameter in a message. -/
def display (p : Parameter) : String :=
  p.markup.words

end Parameter

namespace Scope

/-- The words that lead to a scope. -/
def name : Scope → String
  | program => "member-spacing"
  | check => "member-spacing check"
  | fix => "member-spacing fix"

/-- The named parameters of a scope, in the order in which help lists them. -/
def parameters : Scope → List Parameter
  | program => [.verbose, .quiet, .help, .version]
  | check => [.config, .verbose, .lines, .quiet, .format, .help]
  | fix => [.config, .verbose, .lines, .quiet, .dryRun, .diff, .help]

/-- The parameters of a scope that usage shows as alternatives once one of them was given. -/
def alternatives : Scope → List Parameter
  | program => [.verbose, .quiet]
  | check | fix => [.config, .lines]

/-- Whether a scope takes files and directories. -/
def takesPaths : Scope → Bool
  | program => false
  | _ => true

/-- The command with a name. -/
def ofWord? : String → Option Scope
  | "check" => some check
  | "fix" => some fix
  | _ => none

/-- The names of the commands, and of the one that explains them. -/
def commandNames : List String := ["check", "fix", "help"]

/-- The parameter with a long name. -/
def findLong? (scope : Scope) (name : String) : Option Parameter :=
  scope.parameters.find? (·.long == name)

/-- The parameter with a letter. -/
def findShort? (scope : Scope) (letter : Char) : Option Parameter :=
  scope.parameters.find? (·.short? == some letter)

end Scope

/-- What was given of the parameters of a scope, as far as usage shows it. -/
structure Used where
  parameters : List Parameter := []
  /-- Whether the alternatives of the scope are shown together, in place of each on its own. -/
  alternatives : Bool := false
deriving Repr, DecidableEq

namespace Used

/-- Whether there is nothing to show. -/
def isEmpty (used : Used) : Bool :=
  used.parameters.isEmpty && !used.alternatives

/-- The options to show one by one. One that was given twice is shown at its first place. -/
def options (used : Used) (scope : Scope) : List Parameter :=
  (used.parameters.filter fun p =>
    p != .paths && !(used.alternatives && scope.alternatives.contains p)).eraseDups

end Used

namespace Scope

/-- The alternatives of a scope, between angles. -/
def alternativesMarkup (scope : Scope) : Markup :=
  say ("<" ++ "|".intercalate (scope.alternatives.map (·.display)) ++ ">")

/-- How a scope is used: in general, or, if something was given, with that. -/
def usage (scope : Scope) (used : Used) : Markup :=
  let options : List Markup :=
    if used.isEmpty then [say "[OPTIONS]"]
    else
      (used.options scope).map (·.markup) ++
        (if used.alternatives then [scope.alternativesMarkup] else [])
  let last : Markup :=
    if !scope.takesPaths then say "<COMMAND>"
    else if used.parameters.contains .paths then say "<PATHS>..."
    else Parameter.paths.markup
  [(.heading, "Usage:"), (.plain, " ")] ++
    Markup.intercalate " " ([(.literal, scope.name)] :: options ++ [last])

end Scope

end ClassSpacing.Command
