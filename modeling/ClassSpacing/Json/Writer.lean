import ClassSpacing.Json.Quoted
import ClassSpacing.Value

/-!
# Writing JSON

Values are written over several lines: each item of a list and each entry of an object stands on a
line of its own, two spaces further in than what encloses it. Empty lists and objects stay closed.
-/

namespace ClassSpacing.Json

/-- A line break, and two spaces for each level. -/
def lineBreak (level : Nat) : Text :=
  '\n' :: List.replicate (2 * level) ' '

mutual

/-- A value at some level. -/
def write (level : Nat) : Value → Text
  | .null => ['n', 'u', 'l', 'l']
  | .boolean true => ['t', 'r', 'u', 'e']
  | .boolean false => ['f', 'a', 'l', 's', 'e']
  | .integer n => (toString n).toList
  | .float x => (x.spell Binary64.compact).toList
  | .string s => quoted s
  | .list [] => ['[', ']']
  | .list (v :: vs) =>
    '[' :: lineBreak (level + 1) ++ write (level + 1) v ++ writeItems (level + 1) vs ++
      lineBreak level ++ [']']
  | .table [] => ['\x7b', '\x7d']
  | .table (e :: es) =>
    '\x7b' :: lineBreak (level + 1) ++ writeEntry (level + 1) e ++ writeEntries (level + 1) es ++
      lineBreak level ++ ['\x7d']

/-- The items of a list behind the first one, each behind a comma. -/
def writeItems (level : Nat) : List Value → Text
  | [] => []
  | v :: vs => ',' :: lineBreak level ++ write level v ++ writeItems level vs

/-- An entry of an object. -/
def writeEntry (level : Nat) : String × Value → Text
  | (key, v) => quoted key ++ ':' :: ' ' :: write level v

/-- The entries of an object behind the first one, each behind a comma. -/
def writeEntries (level : Nat) : List (String × Value) → Text
  | [] => []
  | e :: es => ',' :: lineBreak level ++ writeEntry level e ++ writeEntries level es

end

/-- The text of a value. -/
def pretty (v : Value) : Text :=
  write 0 v

end ClassSpacing.Json
