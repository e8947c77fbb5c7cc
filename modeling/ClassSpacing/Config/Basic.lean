import ClassSpacing.Config.Setting

/-!
# Configurations

A configuration holds at most one entry for each rule, ordered by the names of the rules. An
unmentioned rule runs with its defaults.
-/

namespace ClassSpacing

/-- The entries of a configuration file, in increasing order of their names. -/
structure Config where
  rules : List (String × Setting) := []
deriving Repr, DecidableEq, Inhabited

namespace Config

/-- The ordered entries with one more, which takes the place of one with the same name. -/
def insertSorted (name : String) (setting : Setting) :
    List (String × Setting) → List (String × Setting)
  | [] => [(name, setting)]
  | (n, s) :: rest =>
    if name < n then (name, setting) :: (n, s) :: rest
    else if n = name then (name, setting) :: rest
    else (n, s) :: insertSorted name setting rest

/-- The configuration with the given entries, of which later ones replace earlier ones. -/
def ofEntries (entries : List (String × Value)) : Config where
  rules := entries.foldl (fun rules (name, v) => insertSorted name (.ofValue v) rules) []

/-- The entry for a rule. -/
def find? (config : Config) (rule : String) : Option Setting :=
  config.rules.lookup rule

/-- The issues of all entries, in the order of the rules. -/
def issues (config : Config) : List Issue :=
  config.rules.flatMap fun (name, setting) =>
    match setting.resolve name with
    | .ok _ => []
    | .error issues => issues

/-- What the entry for a rule amounts to, if there is one and nothing is wrong with it. -/
def settings? (config : Config) (rule : String) : Option Settings := do
  let setting ← config.find? rule
  (setting.resolve rule).toOption

/-- The spacing rule, unless it is switched off. -/
def rule? (config : Config) : Option Rule :=
  ((config.settings? ruleName).getD {}).toRule?

end Config

end ClassSpacing
