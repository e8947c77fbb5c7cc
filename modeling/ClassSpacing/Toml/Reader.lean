import ClassSpacing.Toml.Document
import ClassSpacing.Toml.Quoted

/-!
# Reading TOML

A document is a list of lines: headers that open a table, and keys with values, which go into the
table opened last. Lists and tables in braces may go on over several lines, with comments, and may
end in a comma. A byte order mark before the first line is ignored.

Readers take fuel; between two steps at least one character is taken in every second one.
-/

namespace ClassSpacing.Toml

/-! ## Blanks -/

/-- What is left behind spaces and tabs. -/
def skipSpaces (t : Text) : Text :=
  t.dropWhile isSpaceOrTab

/-- What is left behind a comment, if one starts here; it ends before the line break. -/
def skipComment? (t : Text) : Option Text :=
  match t with
  | '#' :: rest =>
    let after := rest.dropWhile (!isForbidden ·)
    if after.isEmpty || (afterLineBreak? after).isSome then some after else none
  | _ => some t

/-- What is left behind the end of a line. -/
def endLine? (t : Text) : Option Text := do
  let rest ← skipComment? (skipSpaces t)
  if rest.isEmpty then some [] else afterLineBreak? rest

/-- What is left behind spaces, line breaks and comments. -/
def skipLines? : Nat → Text → Option Text
  | 0, _ => none
  | fuel + 1, t =>
    match skipSpaces t with
    | '#' :: rest => do skipLines? fuel (← skipComment? ('#' :: rest))
    | t =>
      match afterLineBreak? t with
      | some rest => skipLines? fuel rest
      | none => some t

/-! ## Keys -/

/-- Whether a character may stand in a key without quotes. -/
def isBareKeyCharacter (c : Char) : Bool :=
  c.isAlphanum || c == '_' || c == '-'

/-- Reads a key without dots. -/
def simpleKey? (t : Text) : Option (String × Text) :=
  match t with
  | '"' :: _ | '\'' :: _ => singleLine? t
  | _ =>
    let key := t.takeWhile isBareKeyCharacter
    if key.isEmpty then none else some (String.ofList key, t.drop key.length)

/-- The most lists and tables in braces around each other, and the most parts of a dotted key. -/
def depthLimit : Nat := 80

/-- Reads a dotted key of at most `depth` parts: its parts before the last one, and the last one. -/
def keyWithin? : Nat → Text → Option ((List String × String) × Text)
  | 0, _ => none
  | depth + 1, t => do
    let (part, rest) ← simpleKey? t
    match skipSpaces rest with
    | '.' :: more =>
      let ((path, last), rest) ← keyWithin? depth (skipSpaces more)
      return ((part :: path, last), rest)
    | rest => return (([], part), rest)

/-- Reads a dotted key. -/
def key? (t : Text) : Option ((List String × String) × Text) := keyWithin? depthLimit t

/-- Reads the sign between a key and its value, and the spaces around it. -/
def equals? (t : Text) : Option Text :=
  match skipSpaces t with
  | '=' :: rest => some (skipSpaces rest)
  | _ => none

/-! ## Values -/

mutual

/-- Reads a value. At most `depth` lists and tables may be opened. -/
def value? : Nat → Nat → Text → Option (Value × Text)
  | 0, _, _ => none
  | fuel + 1, depth, t =>
    match t with
    | '"' :: _ | '\'' :: _ => do
      let (s, rest) ← string? t
      return (.string s, rest)
    | '[' :: rest =>
      if depth = 0 then none
      else do
        let (items, rest) ← items? fuel (depth - 1) rest
        return (.list items, rest)
    | '\x7b' :: rest =>
      if depth = 0 then none
      else do
        let (entries, rest) ← entries? fuel (depth - 1) [] rest
        return (.table (valuesOf entries), rest)
    | _ => do
      let (run, rest) := splitRun t
      return (← scalar? run, rest)

/-- Reads the items of a list that are left, and its end. -/
def items? : Nat → Nat → Text → Option (List Value × Text)
  | 0, _, _ => none
  | fuel + 1, depth, t => do
    match ← skipLines? (t.length + 1) t with
    | ']' :: rest => return ([], rest)
    | t =>
      let (v, rest) ← value? fuel depth t
      match ← skipLines? (rest.length + 1) rest with
      | ']' :: rest => return ([v], rest)
      | ',' :: rest =>
        let (vs, rest) ← items? fuel depth rest
        return (v :: vs, rest)
      | _ => none

/-- Reads the entries of a table in braces that are left, and its end, and adds them to those that
    were read. -/
def entries? : Nat → Nat → Entries → Text → Option (Entries × Text)
  | 0, _, _, _ => none
  | fuel + 1, depth, before, t => do
    match ← skipLines? (t.length + 1) t with
    | '\x7d' :: rest => return (before, rest)
    | t =>
      let ((path, key), rest) ← key? t
      let (v, rest) ← value? fuel depth (← equals? rest)
      let entries ← before.insert v path key
      match ← skipLines? (rest.length + 1) rest with
      | '\x7d' :: rest => return (entries, rest)
      | ',' :: rest => entries? fuel depth entries rest
      | _ => none

end

/-! ## Documents -/

/-- What has been read of a document. -/
structure State where
  root : Entries := []
  /-- The path to the table opened last. -/
  current : List String := []

/-- Reads the name in a header and the brackets that close it. -/
def headerName? (closing : Text) (t : Text) : Option ((List String × String) × Text) := do
  let (name, rest) ← key? (skipSpaces t)
  let rest := skipSpaces rest
  if closing.isPrefixOf rest then return (name, rest.drop closing.length) else none

/-- Reads a header or a key with its value. -/
def statement? (state : State) (t : Text) : Option (State × Text) :=
  match t with
  | '[' :: '[' :: rest => do
    let ((path, key), rest) ← headerName? [']', ']'] rest
    let root ← state.root.within (·.appendTable key) path
    return ({ root, current := path ++ [key] }, rest)
  | '[' :: rest => do
    let ((path, key), rest) ← headerName? [']'] rest
    let root ← state.root.within (·.openTable key) path
    return ({ root, current := path ++ [key] }, rest)
  | _ => do
    let ((path, key), rest) ← key? t
    let (v, rest) ← value? (2 * rest.length + 2) depthLimit (← equals? rest)
    let root ← state.root.within (·.insert v path key) state.current
    return ({ state with root }, rest)

/-- Reads the lines that are left. -/
def lines (state : State) : Nat → Text → Option State
  | 0, _ => none
  | fuel + 1, t => do
    match ← skipLines? (t.length + 1) t with
    | [] => return state
    | t =>
      let (state, rest) ← statement? state t
      lines state fuel (← endLine? rest)

/-- Reads a document as a table. -/
def parse? (t : Text) : Option (List (String × Value)) := do
  let body : Text := match t with
    | '\ufeff' :: rest => rest
    | _ => t
  let state ← lines {} (body.length + 1) body
  return valuesOf state.root

end ClassSpacing.Toml
