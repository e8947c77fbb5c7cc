import ClassSpacing.Command.Help
import ClassSpacing.Text.Similarity

/-!
# Refused command lines

A command line that cannot be understood is refused with a message, tips on what may have been
meant, and how the program is used.
-/

namespace ClassSpacing.Command

/-- What a tip says. -/
inductive Tip where
  /-- A parameter with a similar name. -/
  | similarParameter (p : Parameter)
  /-- A parameter of a command with a similar name. -/
  | parameterOf (command : String) (p : Parameter)
  /-- A value that may be chosen. -/
  | similarValue (value : String)
  /-- Commands with similar names. -/
  | similarCommands (names : List String)
  /-- What starts with a dash can be given behind two dashes. -/
  | asPath (argument : String)
  /-- A command does not stand behind two dashes. -/
  | withoutDashes (command : String)
deriving Repr, DecidableEq

/-- A text in single quotes. -/
def inQuotes (role : Role) (text : String) : Markup :=
  [(.plain, "'"), (role, text), (.plain, "'")]

/-- The words of a tip. -/
def Tip.markup : Tip → Markup
  | similarParameter p =>
    say "a similar argument exists: " ++ inQuotes .accepted s!"--{p.long}"
  | parameterOf command p => inQuotes .accepted s!"{command} --{p.long}" ++ say " exists"
  | similarValue value => say "a similar value exists: " ++ inQuotes .accepted value
  | similarCommands [name] =>
    say "a similar subcommand exists: " ++ inQuotes .accepted name
  | similarCommands names =>
    say "some similar subcommands exist: " ++
      Markup.intercalate ", " (names.map (inQuotes .accepted))
  | asPath argument =>
    say "to pass " ++ inQuotes .refused argument ++ say " as a value, use " ++
      inQuotes .accepted s!"-- {argument}"
  | withoutDashes command =>
    say "subcommand " ++ inQuotes .accepted command ++
      say " exists; to use it, remove the " ++ inQuotes .refused "--" ++ say " before it"

/-- Why a command line is refused. -/
inductive Refusal where
  | unexpectedArgument (scope : Scope) (argument : String) (tips : List Tip) (used : Used)
  /-- A flag does not take a value. -/
  | unexpectedValue (scope : Scope) (p : Parameter) (value : String) (used : Used)
  | missingValue (p : Parameter)
  /-- The value is none of the choices. -/
  | notAChoice (p : Parameter) (value : String)
  | invalidValue (p : Parameter) (value reason : String)
  | repeated (scope : Scope) (p : Parameter)
  | conflict (scope : Scope) (p q : Parameter) (used : Used)
  | unknownCommand (topic : HelpTopic) (name : String) (tips : List Tip)
  | missingCommand
deriving Repr, DecidableEq

namespace Refusal

/-- Some names behind a heading, in brackets on a line of their own. -/
def listing (heading : String) (names : List String) : Markup :=
  if names.isEmpty then []
  else
    say s!"\n  [{heading}: " ++
      Markup.intercalate ", " (names.map fun name => [(.accepted, name)]) ++ say "]"

/-- The message of a refusal. -/
def message : Refusal → Markup
  | unexpectedArgument _ argument _ _ =>
    say "unexpected argument " ++ inQuotes .refused argument ++ say " found"
  | unexpectedValue _ p value _ =>
    say "unexpected value " ++ inQuotes .refused value ++ say " for " ++
      inQuotes .literal p.display ++ say " found; no more were expected"
  | missingValue p =>
    say "a value is required for " ++ inQuotes .literal p.display ++
      say " but none was supplied" ++ listing "possible values" p.choices
  | notAChoice p value =>
    say "invalid value " ++ inQuotes .refused value ++ say " for " ++
      inQuotes .literal p.display ++ listing "possible values" p.choices
  | invalidValue p value reason =>
    say "invalid value " ++ inQuotes .refused value ++ say " for " ++
      inQuotes .literal p.display ++ say s!": {reason}"
  | repeated _ p =>
    say "the argument " ++ inQuotes .refused p.display ++ say " cannot be used multiple times"
  | conflict _ p q _ =>
    say "the argument " ++ inQuotes .refused p.display ++ say " cannot be used with " ++
      inQuotes .refused q.display
  | unknownCommand _ name _ => say "unrecognized subcommand " ++ inQuotes .refused name
  | missingCommand =>
    inQuotes .refused "member-spacing" ++
      say " requires a subcommand but one was not provided" ++
      listing "subcommands" Scope.commandNames

/-- The tips of a refusal. -/
def tips : Refusal → List Tip
  | unexpectedArgument _ _ tips _ => tips
  | notAChoice p value =>
    ((Similarity.similarTo value p.choices).getLast?.map Tip.similarValue).toList
  | unknownCommand _ _ tips => tips
  | _ => []

/-- How to use what was used wrongly. -/
def usage? : Refusal → Option Markup
  | unexpectedArgument scope _ _ used => some (scope.usage used)
  | unexpectedValue scope _ _ used => some (scope.usage used)
  | repeated scope _ => some (scope.usage {})
  | conflict scope _ _ used => some (scope.usage used)
  | unknownCommand topic _ _ => some topic.usage
  | missingCommand => some (Scope.program.usage {})
  | missingValue _ | notAChoice .. | invalidValue .. => none

/-- The whole text of a refusal. -/
def markup (r : Refusal) : Markup :=
  let tips := r.tips.flatMap fun tip =>
    [(.plain, "\n  "), (.accepted, "tip:"), (.plain, " ")] ++ tip.markup
  let usage : Markup := match r.usage? with
    | some usage => say "\n\n" ++ usage
    | none => []
  [(.failure, "error:"), (.plain, " ")] ++ r.message ++
    (if tips.isEmpty then [] else say "\n") ++ tips ++ usage ++
    say "\n\nFor more information, try " ++ inQuotes .literal "--help" ++ say ".\n"

end Refusal

end ClassSpacing.Command
