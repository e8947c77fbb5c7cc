import ClassSpacing.Rule
import ClassSpacing.Value

/-!
# Settings of a rule

An entry for a rule has one of three shapes: a flag, a list that starts with a flag, or a table with
a severity and a list of options. Anything else is kept as unrecognized, because files may hold
entries for rules of other tools. `Setting.resolve` checks an entry and says what it amounts to.
-/

namespace ClassSpacing

/-- A positional option of a rule. -/
inductive OptionValue where
  | boolean (b : Bool)
  | integer (n : Int)
  | float (x : Binary64)
  | string (s : String)
deriving Repr, DecidableEq

namespace OptionValue

/-- The least integer of 64 bits with a sign. -/
def minInteger : Int := -0x8000000000000000

/-- The largest integer of 64 bits with a sign. -/
def maxInteger : Int := 0x7FFFFFFFFFFFFFFF

/-- The option that a value is. An integer that needs more than 64 bits with a sign counts as a
    float. -/
def ofValue? : Value → Option OptionValue
  | .boolean b => some (boolean b)
  | .integer n =>
    if minInteger ≤ n && n ≤ maxInteger then some (integer n)
    else some (float (Binary64.ofQuotient (n < 0) n.natAbs 1))
  | .float x => some (float x)
  | .string s => some (string s)
  | _ => none

/-- What an option is called in a complaint. -/
def kindName : OptionValue → String
  | boolean _ => "boolean"
  | integer _ => "integer"
  | float _ => "float"
  | string _ => "string"

/-- An option as text; a flag has none. -/
def text? : OptionValue → Option String
  | boolean _ => none
  | integer n => some (toString n)
  | float x => some (x.spell Binary64.plain)
  | string s => some s

end OptionValue

/-- An entry for a rule, as it is written. -/
inductive Setting where
  /-- A flag. -/
  | enabled (flag : Bool)
  /-- A list, which should start with a flag. -/
  | options (values : List OptionValue)
  /-- A table with a severity and options. -/
  | object (severity? : Option String) (options : List OptionValue)
  /-- Anything else. -/
  | unrecognized
deriving Repr, DecidableEq

namespace Setting

/-- The options that the items of a list are, if all of them are. -/
def optionsOf? (items : List Value) : Option (List OptionValue) :=
  items.mapM OptionValue.ofValue?

/-- The values under a key of a table. -/
def valuesAt (key : String) (entries : List (String × Value)) : List Value :=
  (entries.filter (·.1 == key)).map (·.2)

/-- The severity of a table: none, or one string. -/
def severityOf? (entries : List (String × Value)) : Option (Option String) :=
  match valuesAt "severity" entries with
  | [] | [.null] => some none
  | [.string s] => some (some s)
  | _ => none

/-- The options of a table: none, or one list of options. -/
def tableOptions? (entries : List (String × Value)) : Option (List OptionValue) :=
  match valuesAt "options" entries with
  | [] => some []
  | [.list items] => optionsOf? items
  | _ => none

/-- The entry that a value is. -/
def ofValue : Value → Setting
  | .boolean b => enabled b
  | .list items => ((optionsOf? items).map options).getD unrecognized
  | .table entries =>
    match severityOf? entries, tableOptions? entries with
    | some severity?, some values => object severity? values
    | _, _ => unrecognized
  | _ => unrecognized

end Setting

/-- What is wrong with an entry. -/
inductive Issue where
  | unknownSeverity (rule value : String)
  | invalidOptions (rule detail : String)
deriving Repr, DecidableEq

/-- The words for an issue. -/
def Issue.message : Issue → String
  | unknownSeverity rule value => s!"rule '{rule}' has unknown severity '{value}'"
  | invalidOptions rule detail => s!"rule '{rule}' has invalid options: {detail}"

/-- What an entry amounts to. -/
structure Settings where
  enabled : Bool := true
  severity : Severity := .error
  /-- The positional option, as text. -/
  option? : Option String := none
deriving Repr, DecidableEq, Inhabited

namespace Settings

/-- The rule that settings ask for, unless they switch it off. -/
def toRule? (s : Settings) : Option Rule :=
  if s.enabled then some (.ofOption s.option? s.severity) else none

end Settings

namespace Setting

/-- The settings that a severity asks for, or what is wrong with it. Upper and lower case ASCII
    letters are the same. -/
def resolveSeverity (rule : String) : Option String → Settings × List Issue
  | none => ({}, [])
  | some value =>
    match String.ofList (value.toList.map Char.toLower) with
    | "error" | "default" => ({}, [])
    | "warning" | "warn" => ({ severity := .warning }, [])
    | "off" | "none" => ({ enabled := false }, [])
    | _ => ({}, [.unknownSeverity rule value])

/-- The shape of an entry: the settings without the option, the positional options, and what is
    wrong. -/
def resolveShape (rule : String) : Setting → Settings × List OptionValue × List Issue
  | enabled flag => ({ enabled := flag }, [], [])
  | options (.boolean flag :: values) => ({ enabled := flag }, values, [])
  | options (other :: _) =>
    ({}, [],
      [.invalidOptions rule s!"first list element must be a boolean, found {other.kindName}"])
  | options [] => ({}, [], [.invalidOptions rule "options list is empty"])
  | object severity? values =>
    let (settings, issues) := resolveSeverity rule severity?
    (settings, values, issues)
  | unrecognized =>
    let issues :=
      if rule = ruleName then [.invalidOptions rule "expected a boolean, a list or a table"] else []
    ({}, [], issues)

/-- The text of the only positional option, if there is one, or what is wrong with the options. -/
def resolveOptions (rule : String) : List OptionValue → Option String × List Issue
  | [] => (none, [])
  | [value] =>
    match value.text? with
    | some text => (some text, [])
    | none =>
      (none, [.invalidOptions rule s!"expected a number of lines, found {value.kindName}"])
  | values => (none, [.invalidOptions rule s!"takes at most one option, found {values.length}"])

/-- Checks an entry and says what it amounts to. The options of other rules are not looked at. -/
def resolve (rule : String) (setting : Setting) : Except (List Issue) Settings :=
  let (settings, values, shapeIssues) := setting.resolveShape rule
  let (option?, optionIssues) :=
    if rule = ruleName then resolveOptions rule values else (none, [])
  match shapeIssues ++ optionIssues with
  | [] => .ok { settings with option? }
  | issues => .error issues

end Setting

end ClassSpacing
