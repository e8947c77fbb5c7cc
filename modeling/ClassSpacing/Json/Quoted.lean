import ClassSpacing.Json.Fault

/-!
# JSON strings

Reading and writing the characters of a string, behind its opening quote. Characters beyond the
first plane may be written as two escapes, one for each half of their surrogate pair; halves on
their own name no character. Skipping a string looks at the shape of its escapes only.
-/

namespace ClassSpacing.Json

/-! ## Reading -/

/-- The value of a hexadecimal digit. -/
def hexValue? (c : Char) : Option Nat :=
  if '0' ≤ c && c ≤ '9' then some (c.toNat - '0'.toNat)
  else if 'a' ≤ c && c ≤ 'f' then some (c.toNat - 'a'.toNat + 10)
  else if 'A' ≤ c && c ≤ 'F' then some (c.toNat - 'A'.toNat + 10)
  else none

/-- The number that four hexadecimal digits denote. -/
def hexNumber? (a b c d : Char) : Option Nat := do
  return (((← hexValue? a) * 16 + (← hexValue? b)) * 16 + (← hexValue? c)) * 16 + (← hexValue? d)

/-- The fault of an escape that lacks its four hexadecimal digits: it takes four bytes all the same.
    -/
def hexFault (rest : Text) : Fault :=
  if rest.byteLength < 4 then ⟨.endInString, 0⟩ else ⟨.invalidEscape, rest.byteLength - 4⟩

/-- Reads the four digits of an escape. -/
def hexEscape (t : Text) : Except Fault (Nat × Text) :=
  match t with
  | a :: b :: c :: d :: rest =>
    match hexNumber? a b c d with
    | some n => .ok (n, rest)
    | none => .error (hexFault t)
  | _ => .error (hexFault t)

/-- Whether a number is the first half of a surrogate pair. -/
def isLeading (n : Nat) : Bool := 0xD800 ≤ n && n ≤ 0xDBFF

/-- Whether a number is the second half of a surrogate pair. -/
def isTrailing (n : Nat) : Bool := 0xDC00 ≤ n && n ≤ 0xDFFF

/-- The character that a surrogate pair stands for. -/
def pairValue (leading trailing : Nat) : Char :=
  Char.ofNat ((leading - 0xD800) * 0x400 + (trailing - 0xDC00) + 0x10000)

/-- Reads the second half of a surrogate pair. -/
def trailingEscape (leading : Nat) (t : Text) : Except Fault (Char × Text) :=
  match t with
  | '\\' :: 'u' :: rest =>
    match hexEscape rest with
    | .ok (n, after) =>
      if isTrailing n then .ok (pairValue leading n, after) else .error (.here .loneSurrogate after)
    | .error fault => .error fault
  | ['\\'] => .error (.here .endInString [])
  | '\\' :: rest => .error (.ahead .unfinishedSurrogate rest)
  | [] => .error (.here .endInString [])
  | _ => .error (.ahead .unfinishedSurrogate t)

/-- Reads an escape that gives a character by its number. -/
def numericEscape (t : Text) : Except Fault (Char × Text) :=
  match hexEscape t with
  | .ok (n, rest) =>
    if isTrailing n then .error (.here .loneSurrogate rest)
    else if isLeading n then trailingEscape n rest
    else .ok (Char.ofNat n, rest)
  | .error fault => .error fault

/-- The character that a one-letter escape stands for. -/
def shortEscape? : Char → Option Char
  | '"' => some '"'
  | '\\' => some '\\'
  | '/' => some '/'
  | 'b' => some '\x08'
  | 'f' => some '\x0c'
  | 'n' => some '\n'
  | 'r' => some '\r'
  | 't' => some '\t'
  | _ => none

/-- Reads an escape, behind its backslash. -/
def escape (t : Text) : Except Fault (Char × Text) :=
  match t with
  | [] => .error (.here .endInString [])
  | 'u' :: rest => numericEscape rest
  | c :: rest =>
    match shortEscape? c with
    | some d => .ok (d, rest)
    | none => .error (.ahead .invalidEscape t)

/-- Whether a character may only stand in a string as an escape. -/
def isControl (c : Char) : Bool :=
  c.toNat < 0x20

/-- Reads the characters of a string up to the closing quote, at most `fuel` of them. -/
def characters : Nat → Text → Except Fault (Text × Text)
  | 0, t => .error (.here .endInString t)
  | _ + 1, [] => .error (.here .endInString [])
  | fuel + 1, c :: rest => do
    if c = '"' then
      return ([], rest)
    else if c = '\\' then
      let (d, rest) ← escape rest
      let (ds, rest) ← characters fuel rest
      return (d :: ds, rest)
    else if isControl c then
      throw (.ahead .controlCharacter (c :: rest))
    else
      let (ds, rest) ← characters fuel rest
      return (c :: ds, rest)

/-- Reads a string, behind its opening quote. -/
def string (t : Text) : Except Fault (String × Text) := do
  let (cs, rest) ← characters (t.length + 1) t
  return (String.ofList cs, rest)

/-! ## Skipping -/

/-- Skips an escape, behind its backslash. -/
def skipEscape (t : Text) : Except Fault Text :=
  match t with
  | [] => .error (.here .endInString [])
  | 'u' :: rest => (·.2) <$> hexEscape rest
  | c :: rest => if (shortEscape? c).isSome then .ok rest else .error (.ahead .invalidEscape t)

/-- Skips the characters of a string up to the closing quote, at most `fuel` of them. -/
def skipCharacters : Nat → Text → Except Fault Text
  | 0, t => .error (.here .endInString t)
  | _ + 1, [] => .error (.here .endInString [])
  | fuel + 1, c :: rest => do
    if c = '"' then
      return rest
    else if c = '\\' then
      skipCharacters fuel (← skipEscape rest)
    else if isControl c then
      throw (.here .controlCharacter (c :: rest))
    else
      skipCharacters fuel rest

/-- Skips a string, behind its opening quote. -/
def skipString (t : Text) : Except Fault Text :=
  skipCharacters (t.length + 1) t

/-! ## Writing -/

/-- A control character by its number. -/
def numberedControl (c : Char) : Text :=
  let digit (n : Nat) : Char := Nat.digitChar n
  ['\\', 'u', '0', '0', digit (c.toNat / 16), digit (c.toNat % 16)]

/-- A character between the quotes of a string. -/
def escaped (c : Char) : Text :=
  match c with
  | '"' => ['\\', '"']
  | '\\' => ['\\', '\\']
  | '\x08' => ['\\', 'b']
  | '\x0c' => ['\\', 'f']
  | '\n' => ['\\', 'n']
  | '\r' => ['\\', 'r']
  | '\t' => ['\\', 't']
  | c => if isControl c then numberedControl c else [c]

/-- A string with its quotes. -/
def quoted (s : String) : Text :=
  '"' :: s.toList.flatMap escaped ++ ['"']

end ClassSpacing.Json
