import ClassSpacing.Toml.Scalar

/-!
# Strings of TOML

There are four kinds: basic strings between double quotes, in which a backslash starts an escape,
and literal strings between apostrophes, in which it does not; and each of them between three
quotes, where line breaks are allowed. A line break right behind three opening quotes is dropped,
one or two quotes may stand before three closing ones, and a line break is always one line feed.
-/

namespace ClassSpacing.Toml

/-- Whether a character may not stand in a string or a comment. Line breaks are looked for first. -/
def isForbidden (c : Char) : Bool :=
  (c.toNat < 0x20 && c != '\t') || c.toNat == 0x7F

/-- What follows a line break at the beginning of a text. -/
def afterLineBreak? : Text → Option Text
  | '\n' :: rest => some rest
  | '\r' :: '\n' :: rest => some rest
  | _ => none

/-! ## Escapes -/

/-- The character with the number that some hexadecimal digits denote, if there is one. -/
def numberedCharacter? (digits : Text) : Option Char := do
  let values ← digits.mapM (digitIn? 16)
  let n := values.foldl (fun n v => n * 16 + v) 0
  if n < 0xD800 || (0xDFFF < n && n < 0x110000) then some (Char.ofNat n) else none

/-- Reads an escape that has `count` hexadecimal digits. -/
def numericEscape? (count : Nat) (t : Text) : Option (Char × Text) := do
  if t.length < count then none else return (← numberedCharacter? (t.take count), t.drop count)

/-- Reads an escape, behind its backslash. -/
def escape? : Text → Option (Char × Text)
  | 'b' :: rest => some ('\x08', rest)
  | 't' :: rest => some ('\t', rest)
  | 'n' :: rest => some ('\n', rest)
  | 'f' :: rest => some ('\x0c', rest)
  | 'r' :: rest => some ('\r', rest)
  | 'e' :: rest => some ('\x1b', rest)
  | '"' :: rest => some ('"', rest)
  | '\\' :: rest => some ('\\', rest)
  | 'x' :: rest => numericEscape? 2 rest
  | 'u' :: rest => numericEscape? 4 rest
  | 'U' :: rest => numericEscape? 8 rest
  | _ => none

/-! ## Strings on one line -/

/-- Reads the characters of a basic string and its closing quote. -/
def basic? : Nat → Text → Option (Text × Text)
  | 0, _ => none
  | _ + 1, [] => none
  | fuel + 1, c :: rest => do
    if c = '"' then
      return ([], rest)
    else if c = '\\' then
      let (d, rest) ← escape? rest
      let (ds, rest) ← basic? fuel rest
      return (d :: ds, rest)
    else if isForbidden c then
      none
    else
      let (ds, rest) ← basic? fuel rest
      return (c :: ds, rest)

/-- Reads the characters of a literal string and its closing apostrophe. -/
def literal? : Text → Option (Text × Text)
  | [] => none
  | c :: rest => do
    if c = '\'' then
      return ([], rest)
    else if isForbidden c then
      none
    else
      let (ds, rest) ← literal? rest
      return (c :: ds, rest)

/-! ## Strings on several lines -/

/-- Whether a character only separates. -/
def isSpaceOrTab (c : Char) : Bool :=
  c == ' ' || c == '\t'

/-- What is left behind spaces, tabs and line breaks. -/
def skipBlank : Text → Text
  | '\r' :: '\n' :: rest => skipBlank rest
  | c :: rest => if isSpaceOrTab c || c == '\n' then skipBlank rest else c :: rest
  | [] => []

/-- What follows a backslash that ends a line: it takes away the line break and all spaces, tabs and
    line breaks behind it. -/
def joinedLine? (t : Text) : Option Text :=
  (afterLineBreak? (t.dropWhile isSpaceOrTab)).map skipBlank

/-- The quotes at the beginning of a text: those that belong to a string, whether it ends there, and
    what follows. -/
def splitQuotes (quote : Char) (t : Text) : Text × Bool × Text :=
  let count := min 5 (t.takeWhile (· == quote)).length
  if 3 ≤ count then (List.replicate (count - 3) quote, true, t.drop count)
  else (List.replicate count quote, false, t.drop count)

/-- Reads the characters of a string on several lines and its closing quotes. -/
def lines? (quote : Char) (escapes : Bool) : Nat → Text → Option (Text × Text)
  | 0, _ => none
  | fuel + 1, t => do
    match afterLineBreak? t with
    | some rest =>
      let (ds, rest) ← lines? quote escapes fuel rest
      return ('\n' :: ds, rest)
    | none =>
      match t with
      | [] => none
      | c :: rest =>
        if c = quote then
          let (quotes, closes, rest) := splitQuotes quote t
          if closes then
            return (quotes, rest)
          else
            let (ds, rest) ← lines? quote escapes fuel rest
            return (quotes ++ ds, rest)
        else if escapes && c = '\\' then
          match joinedLine? rest with
          | some rest => lines? quote escapes fuel rest
          | none =>
            let (d, rest) ← escape? rest
            let (ds, rest) ← lines? quote escapes fuel rest
            return (d :: ds, rest)
        else if isForbidden c then
          none
        else
          let (ds, rest) ← lines? quote escapes fuel rest
          return (c :: ds, rest)

/-- Reads a string on several lines, behind its opening quotes. -/
def multiline? (quote : Char) (escapes : Bool) (t : Text) : Option (Text × Text) :=
  let body := (afterLineBreak? t).getD t
  lines? quote escapes (body.length + 1) body

/-! ## Any string -/

/-- Reads a string that stands on one line. -/
def singleLine? : Text → Option (String × Text)
  | '"' :: rest => do
    let (cs, rest) ← basic? (rest.length + 1) rest
    return (String.ofList cs, rest)
  | '\'' :: rest => do
    let (cs, rest) ← literal? rest
    return (String.ofList cs, rest)
  | _ => none

/-- Reads a string of any kind. -/
def string? : Text → Option (String × Text)
  | '"' :: '"' :: '"' :: rest => do
    let (cs, rest) ← multiline? '"' true rest
    return (String.ofList cs, rest)
  | '\'' :: '\'' :: '\'' :: rest => do
    let (cs, rest) ← multiline? '\'' false rest
    return (String.ofList cs, rest)
  | t => singleLine? t

end ClassSpacing.Toml
