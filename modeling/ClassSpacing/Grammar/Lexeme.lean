import ClassSpacing.Text.Basic

/-!
# Lexemes

How much of a text a token takes. A recogniser looks at the front of a text and gives the number of
characters of the longest lexeme of its class that stands there, or nothing.
-/

namespace ClassSpacing.Grammar.Lexeme

/-- How many characters at the front of a text are of a kind. -/
def countWhile (p : Char → Bool) (t : Text) : Nat := (t.takeWhile p).length

/-- A number of characters, or nothing instead of none. -/
def some? (n : Nat) : Option Nat := if n == 0 then none else some n

/-! ## Characters -/

/-- Whether a character is a blank, a tab or a line break. -/
def isSpace (c : Char) : Bool := c == ' ' || ('\t' ≤ c && c ≤ '\r')

/-- Whether a character may separate lexemes. -/
def isSeparator (c : Char) : Bool :=
  isSpace c || ('\u2000' ≤ c && c ≤ '\u200b') ||
    ['\u00a0', '\u1680', '\u2028', '\u2029', '\u202f', '\u205f', '\u2060', '\u3000',
      '\ufeff'].contains c

/-- Whether a character starts a new line outside of blanks. -/
def isLineSeparator (c : Char) : Bool := c == '\u2028' || c == '\u2029'

/-- The punctuation that cannot be a part of a word. -/
def wordBreaks : List Char :=
  [':', ';', '\x60', '"', '\'', '@', '#', '.', ',', '|', '^', '&', '<', '=', '>', '+', '-', '*',
   '/', '\\', '%', '?', '!', '~', '(', ')', '[', ']', '\x7b', '\x7d']

/-- Whether a character may stand inside a word. -/
def isWordPart (c : Char) : Bool :=
  0x20 ≤ c.toNat && !isSeparator c && !wordBreaks.contains c

/-- Whether a character may start a word. -/
def isWordStart (c : Char) : Bool := isWordPart c && !c.isDigit

/-- Whether a character is a hexadecimal digit. -/
def isHexDigit (c : Char) : Bool :=
  c.isDigit || ('a' ≤ c && c ≤ 'f') || ('A' ≤ c && c ≤ 'F')

/-- Whether a character is an octal digit. -/
def isOctalDigit (c : Char) : Bool := '0' ≤ c && c ≤ '7'

/-- Whether a character is a letter, a digit, an underscore or a dollar sign. -/
def isPlainWordPart (c : Char) : Bool := c.isAlphanum || c == '_' || c == '$'

/-! ## Words -/

/-- A character that is written by its number. -/
def numberedCharacter : Text → Option Nat
  | '\\' :: 'u' :: '\x7b' :: rest =>
    let n := countWhile isHexDigit rest
    if 0 < n && rest[n]? == some '\x7d' then some (n + 4) else none
  | '\\' :: 'u' :: rest => if countWhile isHexDigit (rest.take 4) == 4 then some 6 else none
  | _ => none

/-- The rest of a word. The first `skip` characters are known to belong to it. -/
def wordTail : Nat → Text → Nat
  | _, [] => 0
  | skip + 1, _ :: rest => wordTail skip rest + 1
  | 0, c :: rest =>
    if isWordPart c then
      wordTail 0 rest + 1
    else
      match numberedCharacter (c :: rest) with
      | some n => wordTail (n - 1) rest + 1
      | none => 0

/-- A word: an identifier or a keyword. -/
def word (t : Text) : Option Nat :=
  match t with
  | [] => none
  | c :: rest =>
    if isWordStart c then
      some (wordTail 0 rest + 1)
    else
      (numberedCharacter t).map fun n => n + wordTail 0 (t.drop n)

/-- A name that only its class can see. -/
def privateName : Text → Option Nat
  | '#' :: rest => (word rest).map (· + 1)
  | _ => none

/-- The line that tells which program runs a script. -/
def hashBang : Text → Option Nat
  | '#' :: '!' :: rest => some (countWhile (· != '\n') rest + 2)
  | _ => none

/-- A name with a hyphen, of an element or an attribute. -/
def hyphenatedName (t : Text) : Option Nat :=
  if t.head?.any fun c => isPlainWordPart c && !c.isDigit then
    let n := countWhile isPlainWordPart t
    match t.drop n with
    | '-' :: rest => some (n + 1 + countWhile (fun c => isPlainWordPart c || c == '-') rest)
    | _ => none
  else
    none

/-! ## Numbers -/

/-- More digits, between which single underscores may stand. -/
def moreDigits (p : Char → Bool) : Text → Nat
  | '_' :: c :: rest => if p c then moreDigits p rest + 2 else 0
  | c :: rest => if p c then moreDigits p rest + 1 else 0
  | [] => 0

/-- Digits, between which single underscores may stand. -/
def digits (p : Char → Bool) : Text → Option Nat
  | c :: rest => if p c then some (moreDigits p rest + 1) else none
  | [] => none

/-- Digits that may end with the letter of big integers. -/
def bigDigits (p : Char → Bool) (t : Text) : Option Nat :=
  (digits p t).map fun n => if (t.drop n).head? == some 'n' then n + 1 else n

/-- A number with a radix other than ten. -/
def radixNumber : Text → Option Nat
  | '0' :: mark :: rest =>
    let found :=
      if mark == 'x' || mark == 'X' then bigDigits isHexDigit rest
      else if mark == 'b' || mark == 'B' then bigDigits (fun c => c == '0' || c == '1') rest
      else if mark == 'o' || mark == 'O' then bigDigits isOctalDigit rest
      else none
    found.map (· + 2)
  | _ => none

/-- The power of ten that a number is multiplied with. -/
def exponent : Text → Option Nat
  | mark :: rest =>
    if mark == 'e' || mark == 'E' then
      match rest with
      | '-' :: rest => (digits Char.isDigit rest).map (· + 2)
      | '+' :: rest => (digits Char.isDigit rest).map (· + 2)
      | _ => (digits Char.isDigit rest).map (· + 1)
    else
      none
  | [] => none

/-- The part of a decimal number before its point: no more than one zero leads. -/
def wholePart : Text → Option Nat
  | '0' :: rest =>
    match rest with
    | c :: more =>
      if '1' ≤ c && c ≤ '9' then some (moreDigits Char.isDigit more + 2) else some 1
    | [] => some 1
  | c :: rest => if c.isDigit then some (moreDigits Char.isDigit rest + 1) else none
  | [] => none

/-- A number with a point or an exponent. -/
def decimalNumber (t : Text) : Option Nat :=
  match t with
  | '.' :: rest => (digits Char.isDigit rest).map fun n =>
      n + 1 + (exponent (rest.drop n)).getD 0
  | _ =>
    (wholePart t).bind fun n =>
      match t.drop n with
      | '.' :: rest =>
        let m := (digits Char.isDigit rest).getD 0
        some (n + 1 + m + (exponent (rest.drop m)).getD 0)
      | rest => (exponent rest).map (· + n)

/-- A number. -/
def number (t : Text) : Option Nat :=
  ([radixNumber t, bigDigits Char.isDigit t, decimalNumber t].filterMap id).max?

/-! ## Comments -/

/-- A comment up to its closing mark. -/
def blockTail : Text → Option Nat
  | '*' :: '/' :: _ => some 2
  | _ :: rest => (blockTail rest).map (· + 1)
  | [] => none

/-- A comment. -/
def comment : Text → Option Nat
  | '/' :: '/' :: rest =>
    some (countWhile (fun c => c != '\r' && c != '\n' && !isLineSeparator c) rest + 2)
  | '/' :: '*' :: rest => (blockTail rest).map (· + 2)
  | _ => none

/-! ## Quoted text -/

/-- A character that is written with a backslash. A line break after a backslash and a carriage
    return belongs to it. -/
def escapedCharacter (t : Text) : Option Nat :=
  match t with
  | '\\' :: c :: rest =>
    if c == 'x' then
      if countWhile isHexDigit (rest.take 2) == 2 then some 4 else none
    else if c == 'u' then
      numberedCharacter t
    else if isOctalDigit c then
      some (countWhile isOctalDigit (rest.take 2) + 2)
    else if (c == '\r' || c == '?') && rest.head?.any fun d => d == '\n' || isLineSeparator d then
      some 3
    else
      some 2
  | _ => none

/-- Text up to a quote, a backslash or a line break. -/
def quotedText (quote : Char) (t : Text) : Option Nat :=
  some? (countWhile (fun c => c != quote && c != '\\' && c != '\r' && c != '\n') t)

/-- Text up to a quote or a character that is written by its name. -/
def attributeTail (quote : Char) : Text → Nat
  | '&' :: c :: rest => if c == '#' || c.isAlpha then 0 else attributeTail quote rest + 2
  | c :: rest => if c == quote || c == '&' then 0 else attributeTail quote rest + 1
  | [] => 0

/-- Text inside the quotes of an attribute. -/
def attributeText (quote : Char) (t : Text) : Option Nat :=
  some? (attributeTail quote t)

/-- A character of an element that is written by its name or number. -/
def characterReference : Text → Option Nat
  | '&' :: rest =>
    match rest with
    | '#' :: x :: more =>
      if x == 'x' || x == 'X' then
        closed 3 6 (countWhile isHexDigit more) more
      else
        closed 2 5 (countWhile Char.isDigit (x :: more)) (x :: more)
    | _ => closed 1 30 (countWhile Char.isAlpha rest) rest
  | _ => none
where
  /-- From one to `most` characters and a semicolon. -/
  closed (before most n : Nat) (t : Text) : Option Nat :=
    if 0 < n && n ≤ most && t[n]? == some ';' then some (before + n + 1) else none

/-- A set of characters in a regular expression, after its opening bracket. -/
def characterSetTail : Text → Option Nat
  | ']' :: _ => some 1
  | '\\' :: c :: rest => if c == '\n' then none else (characterSetTail rest).map (· + 2)
  | c :: rest => if c == '\n' || c == '\\' then none else (characterSetTail rest).map (· + 1)
  | [] => none

/-- A regular expression up to the slash that ends it. The first `skip` characters are known to
    belong to it. -/
def regexTail : Nat → Text → Nat
  | _, [] => 0
  | skip + 1, _ :: rest => regexTail skip rest + 1
  | 0, c :: rest =>
    if c == '[' then
      match characterSetTail rest with
      | some n => regexTail n rest + 1
      | none => 0
    else if c == '\\' then
      if rest.head?.any (· != '\n') then regexTail 1 rest + 1 else 0
    else if c == '/' || c == '\n' then
      0
    else
      regexTail 0 rest + 1

/-- The pattern of a regular expression. -/
def regexPattern (t : Text) : Option Nat := some? (regexTail 0 t)

/-- The flags of a regular expression. -/
def regexFlags (t : Text) : Option Nat := some? (countWhile (fun c => 'a' ≤ c && c ≤ 'z') t)

/-- Text inside a template, which ends at a backtick, a backslash or a substitution. -/
def templateTail : Text → Option Nat
  | [] => none
  | c :: rest =>
    if c == '\x60' || c == '\\' || (c == '$' && rest.head? == some '\x7b') then some 0
    else if c == '\x00' then none
    else (templateTail rest).map (· + 1)

/-- Text between the tags of an element: more than line breaks and the blanks after them. `saw`
    tells whether there is such text, and `broken` whether only blanks follow a line break. -/
def elementTail (saw broken : Bool) (n : Nat) : Text → Option Nat
  | [] => if saw then some n else none
  | c :: rest =>
    if ['\x00', '<', '>', '\x7b', '\x7d', '&'].contains c then
      if saw then some n else none
    else if c == '\n' then
      elementTail saw true (n + 1) rest
    else
      let broken := broken && isSpace c
      elementTail (saw || !broken) broken (n + 1) rest

end ClassSpacing.Grammar.Lexeme
