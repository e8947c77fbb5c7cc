import ClassSpacing.Command.Refusal
import ClassSpacing.Path
import ClassSpacing.Text.Decimal

/-!
# Reading the command line

A command line has the parameters of the program, the name of a command, and the parameters of the
command. Each scope reads its arguments from left to right. An option waits for its value, and
values are looked at only when the next parameter that is known turns up, or at the end; so a word
that cannot be understood is reported before a bad value to the left of it.
-/

namespace ClassSpacing.Command

/-! ## What a command line asks for -/

/-- The form of a report. -/
inductive OutputFormat where
  | text
  | json
deriving Repr, DecidableEq, Inhabited

/-- Which files to look at, and with which rule. -/
structure Selection where
  paths : List Path
  config? : Option Path := none
  lines? : Option Nat := none
deriving Repr, DecidableEq

/-- What to do with the files. -/
inductive Action where
  | check (format : OutputFormat)
  | fix (dryRun showDiff : Bool)
deriving Repr, DecidableEq

/-- A command line that was understood. -/
structure Invocation where
  verbosity : Nat
  quiet : Bool
  action : Action
  selection : Selection
deriving Repr, DecidableEq

/-- Why there is nothing to do but to show a text. -/
inductive Notice where
  | help (topic : HelpTopic)
  | version
  /-- The command line is empty. -/
  | nothingGiven
  | refused (r : Refusal)
deriving Repr, DecidableEq

/-! ## The parameters of one scope -/

/-- Arguments that were read and not yet looked at. -/
inductive Pending where
  | nothing
  /-- An option and its value, if that was already given. -/
  | value (p : Parameter) (word? : Option String)
  | paths (words : List String)
deriving Repr, DecidableEq

/-- What a scope was given so far. -/
structure Given where
  scope : Scope
  /-- The parameters that were given, in the order of their arrival. -/
  present : List Parameter := []
  /-- Whether one of the alternatives was ever given. -/
  alternatives : Bool := false
  pending : Pending := .nothing
  verbosity : Nat := 0
  config? : Option Path := none
  lines? : Option Nat := none
  format? : Option OutputFormat := none
  paths : List Path := []
deriving Repr, DecidableEq

namespace Given

/-- Whether a parameter was given. -/
def has (g : Given) (p : Parameter) : Bool :=
  g.present.contains p

/-- Notes that a parameter was given. One that was given before keeps its place. -/
def note (g : Given) (p : Parameter) : Given :=
  { g with
    present := if g.has p then g.present else g.present ++ [p]
    alternatives := g.alternatives || g.scope.alternatives.contains p }

/-- Forgets a parameter. -/
def forget (g : Given) (p : Parameter) : Given :=
  { g with present := g.present.erase p }

/-- What usage shows of the parameters that were given. -/
def used (g : Given) : Used where
  parameters := g.present
  alternatives := g.alternatives

/-- Sets an option. -/
def setValue (g : Given) (p : Parameter) (word : String) : Except Refusal Given :=
  match p with
  | .lines =>
    match Decimal.readWord word with
    | .ok n => .ok { g with lines? := some n }
    | .error fault => .error (.invalidValue p word fault.message)
  | .format =>
    match word with
    | "text" => .ok { g with format? := some .text }
    | "json" => .ok { g with format? := some .json }
    | "" => .error (.missingValue p)
    | _ => .error (.notAChoice p word)
  | _ => if word.isEmpty then .error (.missingValue p) else .ok { g with config? := some ⟨word⟩ }

/-- Takes an option with its value. It may be given once. If it is refused, what counts as given is
    still known. -/
def takeValue (g : Given) (p : Parameter) (word : String) : Given × Option Refusal :=
  if g.has p then
    (g.forget p, some (.repeated g.scope p))
  else
    match (g.note p).setValue p word with
    | .ok g => (g, none)
    | .error r => (g.note p, some r)

/-- Looks at the arguments that were not yet looked at. -/
def settle (g : Given) : Given × Option Refusal :=
  let settled := { g with pending := .nothing }
  match g.pending with
  | .nothing => (settled, none)
  | .value p none => (settled, some (.missingValue p))
  | .value p (some word) => settled.takeValue p word
  | .paths words =>
    if words.any (·.isEmpty) then
      (settled.note .paths, some (.missingValue .paths))
    else
      ({ settled.note .paths with paths := settled.paths ++ words.map fun word => ⟨word⟩ }, none)

/-- Looks at the arguments that were not yet looked at, and stops if they are refused. -/
def settled (g : Given) : Except Notice Given :=
  match g.settle with
  | (g, none) => .ok g
  | (_, some r) => .error (.refused r)

/-- Takes a flag. The ones for help and for the version put an end to everything else. -/
def takeFlag (g : Given) (p : Parameter) : Except Notice Given := do
  let g ← g.settled
  match p with
  | .help => throw (.help (.scope g.scope))
  | .version => throw .version
  | .verbose => return { (g.forget p).note p with verbosity := g.verbosity + 1 }
  | p => if g.has p then throw (.refused (.repeated g.scope p)) else return g.note p

/-- Takes an option, with its value if that is attached to it. -/
def takeOption (g : Given) (p : Parameter) (word? : Option String) : Except Notice Given := do
  let g ← g.settled
  match word? with
  | none => return { g with pending := .value p none }
  | some word =>
    match g.takeValue p word with
    | (g, none) => return g
    | (_, some r) => throw (.refused r)

/-! ## Arguments that start with dashes -/

/-- The parameters with long names in a command, for suggestions. -/
def similarIn? (scope : Scope) (name : String) : Option Parameter := do
  let best ← (Similarity.similarTo name (scope.parameters.map (·.long))).getLast?
  scope.findLong? best

/-- The command among the arguments to come, the first one first, that has a parameter with a
    similar name. -/
def similarInCommand? (name : String) (rest : List String) : Option Tip :=
  rest.findSome? fun word => do
    let scope ← Scope.ofWord? word
    let p ← similarIn? scope name
    return .parameterOf word p

/-- The refusal of a long name that no parameter of the scope has. -/
def unknownLong (g : Given) (name : String) (rest : List String) : Refusal :=
  let g := g.settle.1
  let argument := s!"--{name}"
  match similarIn? g.scope name with
  | some p =>
    .unexpectedArgument g.scope argument [.similarParameter p] (g.note p).used
  | none =>
    let tips := match g.scope with
      | .program => (similarInCommand? name rest).toList
      | _ => [.asPath argument]
    .unexpectedArgument g.scope argument tips g.used

/-- The refusal of a letter that no parameter of the scope has. -/
def unknownShort (g : Given) (letter : Char) : Refusal :=
  let argument := String.ofList ['-', letter]
  .unexpectedArgument g.scope argument (if g.scope.takesPaths then [.asPath argument] else [])
    {}

/-- A name and the value behind an equals sign. -/
def splitValue (chars : List Char) : String × Option String :=
  let name := String.ofList (chars.takeWhile (· != '='))
  match chars.dropWhile (· != '=') with
  | [] => (name, none)
  | _ :: value => (name, some (String.ofList value))

/-- Reads an argument that starts with two dashes, without them. -/
def readLong (g : Given) (chars : List Char) (rest : List String) : Except Notice Given :=
  let (name, value?) := splitValue chars
  match g.scope.findLong? name with
  | none => .error (.refused (g.unknownLong name rest))
  | some p =>
    match p.valueName?, value? with
    | some _, value? => g.takeOption p value?
    | none, none => g.takeFlag p
    | none, some value =>
      .error (.refused (.unexpectedValue g.scope p value
        { g.used with parameters := g.present ++ [p] }))

/-- Reads letters behind one dash. An option takes what follows its letter as its value, without an
    equals sign between them. -/
def readShorts (g : Given) : List Char → Except Notice Given
  | [] => .ok g
  | c :: rest =>
    match g.scope.findShort? c with
    | none => .error (.refused (g.unknownShort c))
    | some p =>
      match p.valueName?, rest with
      | none, rest => do readShorts (← g.takeFlag p) rest
      | some _, [] => g.takeOption p none
      | some _, '=' :: value => g.takeOption p (some (String.ofList value))
      | some _, value => g.takeOption p (some (String.ofList value))

/-! ## Other arguments -/

/-- Takes a word as a path. -/
def takePath (g : Given) (word : String) : Except Notice Given :=
  match g.pending with
  | .paths words => .ok { g with pending := .paths (words ++ [word]) }
  | _ => do return { ← g.settled with pending := .paths [word] }

/-- Takes a word that does not start with a dash: the value of the option that waits for one, or a
    path. -/
def takeWord (g : Given) (word : String) : Except Notice Given :=
  match g.pending with
  | .value p none => .ok { g with pending := .value p (some word) }
  | _ => g.takePath word

/-- The refusal of a word that is no command. -/
def unknownCommand (word : String) : Refusal :=
  match Similarity.similarTo word Scope.commandNames with
  | [] => .unknownCommand (.scope .program) word []
  | names => .unknownCommand (.scope .program) word [.similarCommands names]

/-- Reads an argument, where `rest` follows it. The scope of the program takes no other words than
    the names of commands. -/
def read (g : Given) (argument : String) (rest : List String) : Except Notice Given :=
  match argument.toList with
  | '-' :: '-' :: chars => g.readLong chars rest
  | '-' :: c :: chars => g.readShorts (c :: chars)
  | _ =>
    if g.scope.takesPaths then g.takeWord argument
    else .error (.refused (unknownCommand argument))

/-- What keeps the given parameters from being used together. -/
def conflict? (g : Given) : Option Refusal :=
  match g.present.filter fun p => p == .verbose || p == .quiet with
  | [p, q] => some (.conflict g.scope p q { parameters := g.present.erase q })
  | _ => none

/-- The scope without a conflict. -/
def withoutConflict (g : Given) : Except Notice Given :=
  match g.conflict? with
  | some r => .error (.refused r)
  | none => .ok g

end Given

/-! ## Whole command lines -/

/-- Reads the arguments of a command. Behind two dashes, all are paths. -/
def readCommand (g : Given) : List String → Except Notice Given
  | [] => do (← g.settled).withoutConflict
  | "--" :: rest => do
    let g ← rest.foldlM Given.takePath g
    (← g.settled).withoutConflict
  | argument :: rest => do readCommand (← g.read argument rest) rest

/-- The help that some words ask for, each below the one before it. -/
def helpOn (topic : HelpTopic) : List String → Notice
  | [] => .help topic
  | word :: rest =>
    match topic, Scope.ofWord? word with
    | .scope .program, some scope => helpOn (.scope scope) rest
    | topic, _ =>
      if topic = .scope .program && word = "help" then helpOn .help rest
      else .refused (.unknownCommand topic word [])

/-- The refusal of the first word behind two dashes, where no command may stand. -/
def behindDashes (word : String) : Refusal :=
  if Scope.commandNames.contains word then
    .unexpectedArgument .program word [.withoutDashes word] {}
  else
    Given.unknownCommand word

/-- Reads the arguments of the program: its own parameters, and those of the command. -/
def readProgram (g : Given) : List String → Except Notice (Given × Option Given)
  | [] => .ok (g, none)
  | argument :: rest =>
    match Scope.ofWord? argument, argument with
    | some scope, _ => do return (g, some (← readCommand { scope } rest))
    | none, "help" => .error (helpOn (.scope .program) rest)
    | none, "--" =>
      match rest with
      | [] => .ok (g, none)
      | word :: _ => .error (.refused (behindDashes word))
    | none, argument => do readProgram (← g.read argument rest) rest

/-- The action that the parameters of a command ask for. -/
def Given.action (g : Given) : Action :=
  match g.scope with
  | .fix => .fix (g.has .dryRun) (g.has .diff)
  | _ => .check (g.format?.getD .text)

/-- The files and the rule that the parameters of a command ask for. Without paths, it is the
    current directory. -/
def Given.selection (g : Given) : Selection where
  paths := if g.has .paths then g.paths else [⟨"."⟩]
  config? := g.config?
  lines? := g.lines?

/-- Reads a command line. What is given to the command goes before what is given to the program. -/
def readArguments (arguments : List String) : Except Notice Invocation := do
  let (program, command?) ← readProgram { scope := .program } arguments
  match command? with
  | none =>
    throw (if program.present.isEmpty then .nothingGiven else .refused .missingCommand)
  | some command =>
    let program ← program.withoutConflict
    return {
      verbosity := if command.has .verbose then command.verbosity else program.verbosity
      quiet := command.has .quiet || program.has .quiet
      action := command.action
      selection := command.selection }

end ClassSpacing.Command
