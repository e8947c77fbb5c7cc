import ClassSpacing.Config.Basic
import ClassSpacing.Edit
import ClassSpacing.Json.Reader
import ClassSpacing.Toml.Reader

/-!
# Loading configurations

A configuration is written in JSON or in TOML. In both it has a table `rules`, and whatever else it
holds is ignored. A JSON file may also be a list with that table as its first item. In JSON, the
table is read as the text goes by, so the first fault of the text is the one that is reported, be it
a fault of the format or a value of the wrong kind.
-/

namespace ClassSpacing

/-- The format of a configuration file. -/
inductive ConfigFormat where
  | toml
  | json
deriving Repr, DecidableEq, Inhabited

namespace ConfigFormat

/-- Files with the extension `json`, in any mixture of cases, are JSON; all others are TOML. -/
def ofPath (p : Path) : ConfigFormat :=
  match p.extension?.bind RawText.text? with
  | some ext => if ext.toList.map Char.toLower = ['j', 's', 'o', 'n'] then json else toml
  | none => toml

/-- The name of the format. -/
def name : ConfigFormat → String
  | toml => "Toml"
  | json => "Json"

end ConfigFormat

/-- Why a configuration is refused. The path is known if it was read from a file. -/
inductive ConfigError where
  | unreadable (path : Path) (fault : FileFault)
  | toml (path? : Option Path)
  /-- A fault, with its words. -/
  | json (path? : Option Path) (fault : String)
  | invalid (path? : Option Path) (issues : List Issue)
deriving Repr, DecidableEq

namespace ConfigError

/-- The words for some issues, a line each. -/
def issueLines (issues : List Issue) : String :=
  "\n".intercalate (issues.map Issue.message)

/-- What is at the bottom of an error. -/
def cause : ConfigError → String
  | unreadable _ fault => fault.message
  | toml _ => "TOML parse error"
  | json _ fault => fault
  | invalid _ issues => issueLines issues

/-- A path in parentheses, behind a space. -/
def placeName : Option Path → String
  | some path => s!" ({path.text})"
  | none => ""

/-- The words for an error. -/
def message (e : ConfigError) : String :=
  match e with
  | unreadable path _ => s!"failed to read lint config from {path.text}: {e.cause}"
  | toml path? => s!"failed to parse lint config TOML{placeName path?}: {e.cause}"
  | json path? _ => s!"failed to parse lint config JSON{placeName path?}: {e.cause}"
  | invalid path? _ => s!"invalid lint config{placeName path?}: {e.cause}"

/-- The same error in a file. -/
def inFile (path : Path) : ConfigError → ConfigError
  | toml none => toml (some path)
  | json none fault => json (some path) fault
  | invalid none issues => invalid (some path) issues
  | e => e

end ConfigError

namespace Config

/-! ## JSON -/

open Json (Fault nextKey nextItem skipBlanks)

/-- Reads the table of rules. -/
def jsonRules (fuel : Nat) (t : Text) : Except Fault (List (String × Value) × Text) :=
  match skipBlanks t with
  | [] => .error (.here .endInValue [])
  | '\x7b' :: rest => Json.entries fuel (Json.depthLimit - 2) true rest
  | t => .error (Json.mismatch "a map" t)

/-- The fault of a second table of rules. It is placed behind the key and the blanks that follow,
    and behind the end of the object if that comes next. -/
def duplicateRules (t : Text) : Fault :=
  match skipBlanks t with
  | '\x7d' :: rest => .here (.duplicateField "rules") rest
  | rest => .here (.duplicateField "rules") rest

/-- Reads the fields of a configuration that are left. `found?` holds the rules if they were read.
    -/
def jsonFields (found? : Option (List (String × Value))) :
    Nat → Bool → Text → Except Fault (List (String × Value) × Text)
  | 0, _, t => .error (.here .endInObject t)
  | fuel + 1, first, t => do
    match ← nextKey first t with
    | .inr rest => return (found?.getD [], rest)
    | .inl t =>
      let (key, rest) ← Json.string t
      if key = "rules" then
        if found?.isSome then
          throw (duplicateRules rest)
        let (rules, rest) ← jsonRules (Json.fuelFor rest) (← Json.colon rest)
        jsonFields (some rules) fuel false rest
      else
        let rest ← Json.skipValue (Json.fuelFor rest) (← Json.colon rest)
        jsonFields found? fuel false rest

/-- Reads the end of a list that may hold no more items. -/
def jsonListEnd (t : Text) : Except Fault Text :=
  match skipBlanks t with
  | [] => .error (.here .endInList [])
  | ']' :: rest => .ok rest
  | ',' :: rest =>
    match skipBlanks rest with
    | ']' :: after => .error (.ahead .trailingComma (']' :: after))
    | t => .error (.ahead .trailingCharacters t)
  | t => .error (.ahead .trailingCharacters t)

/-- Reads a configuration. -/
def jsonConfig (t : Text) : Except Fault (List (String × Value) × Text) :=
  match skipBlanks t with
  | [] => .error (.here .endInValue [])
  | '\x7b' :: rest => jsonFields none (rest.length + 1) true rest
  | '[' :: rest => do
    match ← nextItem true rest with
    | .inr rest => return ([], rest)
    | .inl t =>
      let (rules, rest) ← jsonRules (Json.fuelFor t) t
      return (rules, ← jsonListEnd rest)
  | t => .error (Json.mismatch "struct LintConfig" t)

/-- The rules of a JSON text. -/
def ofJson (t : Text) : Except Fault Config := do
  let (rules, rest) ← jsonConfig t
  Json.finish rest
  return ofEntries rules

/-! ## TOML -/

/-- The rules of a TOML text. -/
def ofToml? (t : Text) : Option Config := do
  match (← Toml.parse? t).lookup "rules" with
  | none => return {}
  | some (.table rules) => return ofEntries rules
  | some _ => none

/-! ## Either format -/

/-- Reads a configuration. -/
def parse (format : ConfigFormat) (t : Text) : Except ConfigError Config :=
  match format with
  | .toml =>
    match ofToml? t with
    | some config => .ok config
    | none => .error (.toml none)
  | .json =>
    match ofJson t with
    | .ok config => .ok config
    | .error fault => .error (.json none (fault.message t))

/-- Reads and checks a configuration. -/
def load (format : ConfigFormat) (t : Text) : Except ConfigError Config := do
  let config ← parse format t
  match config.issues with
  | [] => return config
  | issues => throw (.invalid none issues)

end Config

end ClassSpacing
