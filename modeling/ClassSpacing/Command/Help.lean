import ClassSpacing.Command.Parameter

/-!
# Help

The help of a scope says what it is for and how it is used, and lists its commands or paths and its
options in two columns.
-/

namespace ClassSpacing.Command

/-- What help is asked for. -/
inductive HelpTopic where
  | scope (s : Scope)
  /-- Help itself. -/
  | help
deriving Repr, DecidableEq, Inhabited

namespace HelpTopic

/-- What a topic is about. -/
def about : HelpTopic → String
  | scope .program => "Check blank lines between TypeScript class members"
  | scope .check => "Report members without the required blank lines"
  | scope .fix => "Insert or remove blank lines so every member conforms"
  | help => "Print this message or the help of the given subcommand(s)"

/-- How a topic is used. -/
def usage : HelpTopic → Markup
  | scope s => s.usage {}
  | help => [(.heading, "Usage:"), (.plain, " "), (.literal, "member-spacing help"),
      (.plain, " [COMMAND]...")]

/-- Rows of two columns, the first as wide as its widest entry needs. -/
def rows (entries : List (Markup × String)) : Markup :=
  let width := (entries.map fun (name, _) => name.words.length).foldl max 0
  entries.flatMap fun (name, text) =>
    let gap := String.ofList (List.replicate (width - name.words.length + 2) ' ')
    say "  " ++ name ++ say (gap ++ text ++ "\n")

/-- A heading above its rows. -/
def table (heading : String) (entries : List (Markup × String)) : Markup :=
  [(.plain, "\n"), (.heading, heading), (.plain, "\n")] ++ rows entries

/-- The rows of the commands. -/
def commandRows : List (Markup × String) :=
  [([(.literal, "check")], about (scope .check)), ([(.literal, "fix")], about (scope .fix)),
    ([(.literal, "help")], about help)]

/-- The rows of the options of a scope. -/
def optionRows (s : Scope) : List (Markup × String) :=
  s.parameters.map fun p =>
    let letter : Markup := match p.short? with
      | some c => [(.literal, String.ofList ['-', c]), (.plain, ", ")]
      | none => []
    (letter ++ p.markup, p.about)

/-- The rows of what a scope takes without a name. -/
def pathRows (use : String) : List (Markup × String) :=
  [(Parameter.paths.markup, s!"{Parameter.paths.about} to {use} [default: .]")]

/-- The tables of a topic. -/
def tables : HelpTopic → Markup
  | scope .program => table "Commands:" commandRows ++ table "Options:" (optionRows .program)
  | scope .check => table "Arguments:" (pathRows "lint") ++ table "Options:" (optionRows .check)
  | scope .fix => table "Arguments:" (pathRows "fix") ++ table "Options:" (optionRows .fix)
  | help => table "Arguments:" [(say "[COMMAND]...", "Print help for the subcommand(s)")]

/-- The help of a topic. -/
def markup (topic : HelpTopic) : Markup :=
  say (topic.about ++ "\n\n") ++ topic.usage ++ say "\n" ++ topic.tables

end HelpTopic

/-- The name and the version of the program. -/
def versionText : String := "member-spacing 0.1.0\n"

end ClassSpacing.Command
