import ClassSpacing.Json.Number
import ClassSpacing.Json.Quoted
import ClassSpacing.Text.Quoted

/-!
# Reading JSON

`value` reads a value and refuses numbers that are too large and nesting that is too deep;
`skipValue` passes over a value of which only the shape matters, and refuses neither. `value` is
made so that it can be used for a part of a text: it returns what is left behind the value.

Both take fuel. Between two steps at least one character is taken in every second one, so twice the
length of the text is enough.
-/

namespace ClassSpacing.Json

/-- Whether a character may stand between the tokens. -/
def isSeparator (c : Char) : Bool :=
  c == ' ' || c == '\n' || c == '\t' || c == '\r'

/-- What is left behind spaces and line breaks. -/
def skipBlanks (t : Text) : Text :=
  t.dropWhile isSeparator

/-- The most lists and objects around a value, counting itself, plus one. -/
def depthLimit : Nat := 128

/-- Fuel for a text. -/
def fuelFor (t : Text) : Nat :=
  2 * t.length + 2

/-- Reads the given characters. -/
def word : List Char → Text → Except Fault Text
  | [], t => .ok t
  | _ :: _, [] => .error (.here .endInValue [])
  | e :: es, c :: rest => if c = e then word es rest else .error (.ahead .expectedWord (c :: rest))

/-- Reads a value that is neither a list nor an object. -/
def scalar (t : Text) : Except Fault (Value × Text) :=
  match t with
  | 'n' :: rest => (Value.null, ·) <$> word ['u', 'l', 'l'] rest
  | 't' :: rest => (Value.boolean true, ·) <$> word ['r', 'u', 'e'] rest
  | 'f' :: rest => (Value.boolean false, ·) <$> word ['a', 'l', 's', 'e'] rest
  | '-' :: rest => number true rest
  | '"' :: rest => (fun (s, after) => (Value.string s, after)) <$> string rest
  | _ => if startsWithDigit t then number false t else .error (.ahead .expectedValue t)

/-- Reads the colon between a key and its value. -/
def colon (t : Text) : Except Fault Text :=
  match skipBlanks t with
  | [] => .error (.here .endInObject [])
  | ':' :: rest => .ok rest
  | t => .error (.ahead .expectedColon t)

/-- Finds the next item of a list: the text that starts with it, or what is left behind the list.
    The first item needs no comma. -/
def nextItem (first : Bool) (t : Text) : Except Fault (Text ⊕ Text) :=
  match skipBlanks t with
  | [] => .error (.here .endInList [])
  | ']' :: rest => .ok (.inr rest)
  | c :: rest =>
    if first then
      .ok (.inl (c :: rest))
    else if c = ',' then
      match skipBlanks rest with
      | [] => .error (.here .endInValue [])
      | ']' :: after => .error (.ahead .trailingComma (']' :: after))
      | t => .ok (.inl t)
    else
      .error (.ahead .expectedListEnd (c :: rest))

/-- Finds the next key of an object: the text behind its opening quote, or what is left behind the
    object. The first key needs no comma. -/
def nextKey (first : Bool) (t : Text) : Except Fault (Text ⊕ Text) :=
  match skipBlanks t with
  | [] => .error (.here .endInObject [])
  | '\x7d' :: rest => .ok (.inr rest)
  | c :: rest =>
    if first then
      if c = '"' then .ok (.inl rest) else .error (.ahead .keyNotString (c :: rest))
    else if c = ',' then
      match skipBlanks rest with
      | [] => .error (.here .endInValue [])
      | '"' :: after => .ok (.inl after)
      | '\x7d' :: after => .error (.ahead .trailingComma ('\x7d' :: after))
      | t => .error (.ahead .keyNotString t)
    else
      .error (.ahead .expectedObjectEnd (c :: rest))

mutual

/-- Reads a value. `depth` is one more than the number of lists and objects that may be opened. -/
def value : Nat → Nat → Text → Except Fault (Value × Text)
  | 0, _, t => .error (.here .endInValue t)
  | fuel + 1, depth, t =>
    match skipBlanks t with
    | [] => .error (.here .endInValue [])
    | '[' :: rest =>
      if depth ≤ 1 then .error (.ahead .tooDeep ('[' :: rest))
      else do
        let (items, rest) ← items fuel (depth - 1) true rest
        return (.list items, rest)
    | '\x7b' :: rest =>
      if depth ≤ 1 then .error (.ahead .tooDeep ('\x7b' :: rest))
      else do
        let (entries, rest) ← entries fuel (depth - 1) true rest
        return (.table entries, rest)
    | t => scalar t

/-- Reads the items of a list that are left, and its end. -/
def items : Nat → Nat → Bool → Text → Except Fault (List Value × Text)
  | 0, _, _, t => .error (.here .endInList t)
  | fuel + 1, depth, first, t => do
    match ← nextItem first t with
    | .inr rest => return ([], rest)
    | .inl t =>
      let (v, rest) ← value fuel depth t
      let (vs, rest) ← items fuel depth false rest
      return (v :: vs, rest)

/-- Reads the entries of an object that are left, and its end. -/
def entries : Nat → Nat → Bool → Text → Except Fault (List (String × Value) × Text)
  | 0, _, _, t => .error (.here .endInObject t)
  | fuel + 1, depth, first, t => do
    match ← nextKey first t with
    | .inr rest => return ([], rest)
    | .inl t =>
      let (key, rest) ← string t
      let (v, rest) ← value fuel depth (← colon rest)
      let (more, rest) ← entries fuel depth false rest
      return ((key, v) :: more, rest)

end

/-- Refuses anything but blanks. -/
def finish (t : Text) : Except Fault Unit :=
  match skipBlanks t with
  | [] => .ok ()
  | t => .error (.ahead .trailingCharacters t)

/-- Reads a whole text as one value. -/
def parse (t : Text) : Except Fault Value := do
  let (v, rest) ← value (fuelFor t) depthLimit t
  finish rest
  return v

/-! ## Skipping -/

mutual

/-- Skips a value of any depth. -/
def skipValue : Nat → Text → Except Fault Text
  | 0, t => .error (.here .endInValue t)
  | fuel + 1, t =>
    match skipBlanks t with
    | [] => .error (.here .endInValue [])
    | '[' :: rest => skipItems fuel true rest
    | '\x7b' :: rest => skipEntries fuel true rest
    | '-' :: rest => skipNumber rest
    | '"' :: rest => skipString rest
    | t => if startsWithDigit t then skipNumber t else (·.2) <$> scalar t

/-- Skips the items of a list that are left, and its end. -/
def skipItems : Nat → Bool → Text → Except Fault Text
  | 0, _, t => .error (.here .endInList t)
  | fuel + 1, first, t =>
    match skipBlanks t with
    | [] => .error (.here .endInList [])
    | ']' :: rest => .ok rest
    | c :: rest =>
      if first then do skipItems fuel false (← skipValue fuel (c :: rest))
      else if c = ',' then do skipItems fuel false (← skipValue fuel rest)
      else .error (.ahead .expectedListEnd (c :: rest))

/-- Skips the entries of an object that are left, and its end. -/
def skipEntries : Nat → Bool → Text → Except Fault Text
  | 0, _, t => .error (.here .endInObject t)
  | fuel + 1, first, t =>
    match skipBlanks t with
    | [] => .error (.here .endInObject [])
    | '\x7d' :: rest => .ok rest
    | c :: rest =>
      if first || c = ',' then
        match skipBlanks (if first then c :: rest else rest) with
        | [] => .error (.here .endInObject [])
        | '"' :: key => do
          skipEntries fuel false (← skipValue fuel (← colon (← skipString key)))
        | t => .error (.ahead .keyNotString t)
      else
        .error (.ahead .expectedObjectEnd (c :: rest))

end

/-! ## Values of the wrong kind -/

/-- What a value is called in a complaint. -/
def describe : Value → String
  | .null => "null"
  | .boolean b => s!"boolean `{b}`"
  | .integer n => s!"integer `{n}`"
  | .float x => "floating point `" ++ x.spell Binary64.compact ++ "`"
  | .string s => "string " ++ String.ofList (Text.quoted s.toList)
  | .list _ => "sequence"
  | .table _ => "map"

/-- The fault of a value that is not what is wanted. A list or an object is not entered; any other
    value is read first, and has its own faults. -/
def mismatch (wanted : String) (t : Text) : Fault :=
  match t with
  | '[' :: _ => .here (.mismatch (describe (.list [])) wanted) t
  | '\x7b' :: _ => .here (.mismatch (describe (.table [])) wanted) t
  | _ =>
    match scalar t with
    | .ok (v, rest) => .here (.mismatch (describe v) wanted) rest
    | .error fault => fault

end ClassSpacing.Json
