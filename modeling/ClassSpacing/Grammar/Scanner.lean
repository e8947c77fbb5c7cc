import ClassSpacing.Grammar.Language
import ClassSpacing.Grammar.Lexeme

/-!
# Scanning

Which token comes next depends on the tokens that are expected there: a slash is an operator or
starts a regular expression, and a line break ends a statement only where a statement may end. Where
nothing that is expected comes next, any token is looked for, and characters that start none are
skipped together.
-/

namespace ClassSpacing.Grammar

open Lexeme

/-! ## The vocabulary of a language -/

/-- How lexemes of one class are weighed against others. -/
structure LexemeClass where
  token : Nat
  recognise : Text → Option Nat
  /-- A higher priority wins over a longer lexeme. -/
  priority : Int := 0
  /-- Among lexemes of equal length the higher one wins. -/
  preference : Nat := 0

instance : Inhabited LexemeClass := ⟨{ token := 0, recognise := fun _ => none }⟩

/-- The lexemes of a language. -/
structure Vocabulary where
  /-- The tokens before which no blank may stand. -/
  joined : List LexemeClass
  /-- The other tokens that are classes of lexemes, identifiers apart. -/
  classes : List LexemeClass
  /-- The punctuation marks, longer ones first. -/
  marks : List (Nat × Text)
  keywords : Std.HashMap String Nat
  keywordSet : TokenSet
  /-- The tokens that are looked for where nothing fits. -/
  anywhere : TokenSet
  extraSet : TokenSet
  /-- The numbers of the tokens whose lexemes depend on what else is expected. -/
  endOfSource : Nat
  identifier : Nat
  escape : Nat
  regexPattern : Nat
  templateText : Nat
  elementText : Nat
  conditionMark : Nat
  markupComment : Nat
  statementEnd : Nat
  signatureEnd : Nat
  /-- The operator that tells that a value is complete. -/
  orMark : Nat
deriving Inhabited

namespace Vocabulary

/-- Whether a word is a keyword, and not a punctuation mark. -/
def isKeyword (text : String) : Bool := text.toList.all Char.isLower

/-- The tokens that are not looked for where nothing fits. -/
def unlikely : List Token :=
  [.doubleText, .singleText, .doubleAttribute, .singleAttribute, .regexPattern, .regexFlags,
   .word "/>", .word "?:", .characterReference, .hyphenatedName]

/-- The recogniser of a token before which no blank may stand, with its priority and preference. -/
def joinedClass : Token → Option ((Text → Option Nat) × Int × Nat)
  | .doubleText => some (quotedText '"', 1, 1)
  | .singleText => some (quotedText '\'', 1, 1)
  | .escape => some (escapedCharacter, 0, 1)
  | .regexPattern => some (Lexeme.regexPattern, -1, 1)
  | .regexEnd => some (fun t => if t.head? == some '/' then some 1 else none, 1, 3)
  | .regexFlags => some (Lexeme.regexFlags, 0, 1)
  | .doubleAttribute => some (attributeText '"', 1, 1)
  | .singleAttribute => some (attributeText '\'', 1, 1)
  | _ => none

/-- The recogniser of another token that is a class of lexemes. -/
def plainClass : Token → Option (Text → Option Nat)
  | .number => some Lexeme.number
  | .comment => some Lexeme.comment
  | .privateName => some Lexeme.privateName
  | .hashBang => some Lexeme.hashBang
  | .hyphenatedName => some Lexeme.hyphenatedName
  | .characterReference => some Lexeme.characterReference
  | _ => none

/-- The vocabulary of a language. -/
def ofLanguage (l : Language) : Vocabulary :=
  let numbered := l.tokens.toList.zipIdx
  let words := numbered.filterMap fun
    | (.word text, n) => some (text, n)
    | _ => none
  let keywords := words.filter fun (text, _) => isKeyword text
  let marks := (words.filter fun (text, _) => !isKeyword text).map fun (text, n) => (n, text.toList)
  { joined := numbered.filterMap fun (t, token) =>
      (joinedClass t).map fun (recognise, priority, preference) =>
        { token, recognise, priority, preference }
    classes := numbered.filterMap fun (t, token) =>
      (plainClass t).map fun recognise => { token, recognise }
    marks := marks.mergeSort fun a b => b.2.length ≤ a.2.length
    keywords := .ofList keywords
    keywordSet := .ofList (keywords.map (·.2))
    anywhere := .ofList <| numbered.filterMap fun (t, n) =>
      if unlikely.contains t || Token.unwritten.contains t then none else some n
    extraSet := .ofList (Token.extras.map l.numberOf)
    endOfSource := l.numberOf .endOfSource
    identifier := l.numberOf .identifier
    escape := l.numberOf .escape
    regexPattern := l.numberOf .regexPattern
    templateText := l.numberOf .templateText
    elementText := l.numberOf .elementText
    conditionMark := l.numberOf .conditionMark
    markupComment := l.numberOf .markupComment
    statementEnd := l.numberOf .statementEnd
    signatureEnd := l.numberOf .signatureEnd
    orMark := l.numberOf (.word "||") }

end Vocabulary

/-! ## Tokens that depend on what is expected -/

/-- A token that was found: how many characters are skipped before it, and how many it has. -/
structure Found where
  token : Nat
  skipped : Nat := 0
  length : Nat := 0

/-- The first character of a text; a text that has ended goes on with zeros. -/
def front (t : Text) : Char := t.headD '\x00'

/-- The question mark of a conditional value. It is not a part of a longer mark, and a value follows
    it. -/
def findCondition (v : Vocabulary) (t : Text) : Option Found :=
  let n := countWhile isSpace t
  match t.drop n with
  | '?' :: rest =>
    let found : Found := { token := v.conditionMark, skipped := n, length := 1 }
    if front rest == '?' || front rest == '.' then
      none
    else
      match rest.dropWhile isSpace with
      | '.' :: more => if (front more).isDigit then some found else none
      | after => if [':', ')', ','].contains (front after) then none else some found
  | _ => none

/-- A comment that starts with `<!--` or `-->`. -/
def findMarkupComment (v : Vocabulary) (t : Text) : Option Found :=
  let skipped := countWhile (fun c => isSpace c || isLineSeparator c) t
  let opened (n : Nat) (rest : Text) : Found :=
    { token := v.markupComment, skipped
      length := n + countWhile (fun c => c != '\x00' && c != '\n' && !isLineSeparator c) rest }
  match t.drop skipped with
  | '<' :: '!' :: '-' :: '-' :: rest => some (opened 4 rest)
  | '-' :: '-' :: '>' :: rest => some (opened 3 rest)
  | _ => none

/-- How a look at the text after a place went on. -/
structure Glance where
  /-- How many characters were looked at. -/
  count : Nat
  rest : Text
  sawComment : Bool := false
  /-- Whether the question is answered with yes. -/
  answer : Bool

/-- Where a look at blanks and comments is. -/
inductive GapPlace where
  | blank
  | lineComment
  | blockComment

/-- Looks over blanks and comments. The answer is no at a slash that starts no comment. -/
def overGap (count : Nat) (sawComment : Bool) : GapPlace → Text → Glance
  | .blank, '/' :: '/' :: rest => overGap (count + 2) sawComment .lineComment rest
  | .blank, '/' :: '*' :: rest => overGap (count + 2) sawComment .blockComment rest
  | .blank, '/' :: rest => { count := count + 1, rest, sawComment, answer := false }
  | .blank, c :: rest =>
    if isSpace c then
      overGap (count + 1) sawComment .blank rest
    else
      { count, rest := c :: rest, sawComment, answer := true }
  | .lineComment, c :: rest =>
    if c == '\n' then
      overGap (count + 1) true .blank rest
    else if c == '\x00' || isLineSeparator c then
      { count, rest := c :: rest, sawComment := true, answer := true }
    else
      overGap (count + 1) sawComment .lineComment rest
  | .lineComment, [] => { count, rest := [], sawComment := true, answer := true }
  | .blockComment, '*' :: '/' :: rest => overGap (count + 2) true .blank rest
  | .blockComment, c :: rest =>
    if c == '\x00' then
      { count, rest := c :: rest, sawComment, answer := true }
    else
      overGap (count + 1) sawComment .blockComment rest
  | _, [] => { count, rest := [], sawComment, answer := true }

/-- Whether a statement can end before a line that starts with this text. It cannot if the line goes
    on with an operator. -/
def endsBeforeLine (orExpected signatureExpected : Bool) (g : Glance) : Glance :=
  let no := { g with answer := false }
  let after (n : Nat) (answer : Bool) : Glance :=
    { g with count := g.count + n, rest := g.rest.drop n, answer }
  if !g.answer then
    no
  else
    match g.rest with
    | '\x7b' :: _ => if signatureExpected then no else g
    | '(' :: _ => if orExpected then no else g
    | '[' :: _ => if orExpected then no else g
    | '+' :: rest => after 1 (front rest == '+')
    | '-' :: rest => after 1 (front rest == '-')
    | '!' :: rest => after 1 (front rest != '=')
    | 'i' :: 'n' :: 's' :: 't' :: 'a' :: 'n' :: 'c' :: 'e' :: 'o' :: 'f' :: rest =>
      after 10 (front rest).isAlpha
    | 'i' :: 'n' :: rest => after 2 (front rest).isAlpha
    | c :: _ =>
      if "\x60,.;*%><=?^|&/:".toList.contains c then no else g
    | [] => g

/-- Whether a statement can end here without a semicolon: before a closing brace, at the end of the
    source, or at a line break. -/
def endsHere (orExpected signatureExpected : Bool) (count : Nat) : Text → Glance
  | [] => { count, rest := [], answer := true }
  | c :: rest =>
    if c == '\x00' then
      { count, rest := c :: rest, answer := true }
    else if c == '\x7d' then
      let n := countWhile isSpace rest
      let after := rest.drop n
      { count := count + 1 + n, rest := after, answer := front after != ':' || orExpected }
    else if c == '\n' then
      endsBeforeLine orExpected signatureExpected (overGap (count + 1) false .blank rest)
    else if isSpace c then
      endsHere orExpected signatureExpected (count + 1) rest
    else
      { count, rest := c :: rest, answer := false }

/-- A token whose lexeme depends on what is expected. -/
def findSpecial (v : Vocabulary) (expected : TokenSet) (t : Text) : Option Found :=
  if expected.contains v.templateText then
    if expected.contains v.statementEnd then
      none
    else
      ((templateTail t).bind some?).map fun length => { token := v.templateText, length }
  else
    match if expected.contains v.elementText then elementTail false false 0 t else none with
    | some length => some { token := v.elementText, length }
    | none =>
      if expected.contains v.statementEnd || expected.contains v.signatureEnd then
        let glance := endsHere (expected.contains v.orMark) (expected.contains v.signatureEnd) 0 t
        if glance.answer then
          some { token := v.statementEnd }
        else if !glance.sawComment && expected.contains v.conditionMark &&
            front glance.rest == '?' then
          (findCondition v glance.rest).map fun f =>
            { f with skipped := f.skipped + glance.count }
        else
          none
      else if expected.contains v.conditionMark then
        findCondition v t
      else if expected.contains v.orMark || expected.contains v.escape ||
          expected.contains v.regexPattern then
        none
      else
        findMarkupComment v t

/-! ## Other tokens -/

/-- A lexeme that may be taken. -/
structure Candidate where
  token : Nat
  length : Nat
  priority : Int := 0
  preference : Nat := 0

/-- Whether a lexeme is to be taken rather than another one at the same place. -/
def Candidate.beats (c d : Candidate) : Bool :=
  d.priority < c.priority || d.priority == c.priority &&
    (d.length < c.length || d.length == c.length && d.preference < c.preference)

/-- The better one of two lexemes; of equal ones the first. -/
def better (best? : Option Candidate) (c : Candidate) : Option Candidate :=
  match best? with
  | some best => if c.beats best then some c else best?
  | none => some c

/-- The best of the lexemes of some classes that are expected. -/
def bestOf (classes : List LexemeClass) (expected : TokenSet) (t : Text)
    (best? : Option Candidate) : Option Candidate :=
  classes.foldl (fun best? x =>
    if expected.contains x.token then
      match x.recognise t with
      | some length => better best?
          { token := x.token, length, priority := x.priority, preference := x.preference }
      | none => best?
    else
      best?) best?

/-- The longest punctuation mark that is expected. -/
def findMark (v : Vocabulary) (expected : TokenSet) (t : Text) : Option Candidate :=
  (v.marks.find? fun (token, mark) => mark.isPrefixOf t && expected.contains token).map
    fun (token, mark) => { token, length := mark.length, preference := 2 }

/-- How far a lexeme can be followed that is then broken off. -/
def brokenOff (v : Vocabulary) (expected : TokenSet) (isJoined : Bool) : Text → Nat
  | '\\' :: 'u' :: '\x7b' :: rest => countWhile isHexDigit rest + 3
  | '\\' :: 'u' :: rest => countWhile isHexDigit (rest.take 4) + 2
  | '\\' :: 'x' :: rest =>
    if isJoined && expected.contains v.escape then
      if (front rest |> isHexDigit) then 3 else 2
    else
      1
  | '\\' :: _ => 1
  | '#' :: '\\' :: 'u' :: _ => 3
  | '#' :: _ => 1
  | _ => 0

/-- A token that is expected, or how far the search for it came: how many characters are skipped,
    and how many of those after them may belong to a lexeme that is broken off. -/
def findPlain (v : Vocabulary) (expected : TokenSet) (t : Text) : Except (Nat × Nat) Found :=
  let skipped := countWhile isSeparator t
  let rest := t.drop skipped
  let joined? := bestOf v.joined expected t none
  match joined?, skipped with
  | some best, _ + 1 => .ok { token := best.token, length := best.length }
  | _, _ =>
    if rest.isEmpty then
      match joined? with
      | some best => .ok { token := best.token, length := best.length }
      | none =>
        if expected.contains v.endOfSource then .ok { token := v.endOfSource, skipped }
        else .error (skipped, 0)
    else
      let best? :=
        if expected.contains v.identifier || expected.meets v.keywordSet then
          match word rest with
          | some length => better joined? { token := v.identifier, length }
          | none => joined?
        else
          joined?
      let best? := bestOf v.classes expected rest best?
      let best? :=
        match findMark v expected rest with
        | some c => better best? c
        | none => best?
      match best? with
      | some best => .ok { token := best.token, skipped, length := best.length }
      | none => .error (skipped, brokenOff v expected (skipped == 0) rest)

/-! ## Sources -/

/-- A source text, and what is to be known about each place in it. -/
structure Source where
  /-- The text from each place on. -/
  rests : Array Text
  /-- The number of bytes before each place. -/
  offsets : Array Nat
  /-- The number of line breaks before each place. -/
  rows : Array Nat

instance : Inhabited Source := ⟨{ rests := #[], offsets := #[], rows := #[] }⟩

namespace Source

/-- Adds the places of a text. -/
def addPlaces (s : Source) (offset row : Nat) : Text → Source
  | [] => { rests := s.rests.push [], offsets := s.offsets.push offset, rows := s.rows.push row }
  | c :: rest =>
    addPlaces { rests := s.rests.push (c :: rest), offsets := s.offsets.push offset
                rows := s.rows.push row }
      (offset + c.utf8Size) (if c == '\n' then row + 1 else row) rest

/-- The source with this text. -/
def ofText (t : Text) : Source := addPlaces default 0 0 t

/-- The number of characters. -/
def length (s : Source) : Nat := s.rests.size - 1

/-- The text from a place on. -/
def textAt (s : Source) (place : Nat) : Text := s.rests.getD place []

/-- The number of bytes before a place. -/
def offset (s : Source) (place : Nat) : Nat := s.offsets.getD place 0

/-- The number of line breaks before a place. -/
def row (s : Source) (place : Nat) : Nat := s.rows.getD place 0

end Source

/-! ## The next token -/

/-- A token with its place, or characters that start no token. -/
structure Lexeme where
  token? : Option Nat
  start : Nat
  stop : Nat
  /-- Whether the text is a keyword, whatever the token. -/
  isKeyword : Bool := false
deriving Inhabited

/-- A token that was found at a place. A word is the keyword with that text where it may stand. -/
def Source.lexeme (s : Source) (v : Vocabulary) (mayStand : Nat → Bool) (place : Nat)
    (found : Found) : Lexeme :=
  let start := place + found.skipped
  let stop := start + found.length
  let plain : Lexeme := { token? := some found.token, start, stop }
  if found.token == v.identifier then
    match v.keywords[String.ofList ((s.textAt start).take found.length)]? with
    | some keyword =>
      { plain with
        isKeyword := true
        token? := some (if mayStand keyword then keyword else found.token) }
    | none => plain
  else
    plain

/-- Skips characters up to one that starts a token, or to the end. -/
def Source.skipCharacters (s : Source) (v : Vocabulary) (start stop : Nat) : Nat → Lexeme
  | 0 => { token? := none, start, stop }
  | fuel + 1 =>
    match findPlain v v.anywhere (s.textAt stop) with
    | .ok _ => { token? := none, start, stop }
    | .error (skipped, length) =>
      let reached := stop + skipped + length
      if reached == stop then
        if s.length ≤ stop then { token? := none, start, stop }
        else s.skipCharacters v start (stop + 1) fuel
      else
        s.skipCharacters v start reached fuel

/-- Any token, or characters that start none. -/
def Source.anyLexeme (s : Source) (v : Vocabulary) (mayStand : Nat → Bool) (place : Nat) :
    Lexeme :=
  match findPlain v v.anywhere (s.textAt place) with
  | .ok found => s.lexeme v mayStand place found
  | .error (skipped, length) =>
    let start := place + skipped
    let reached := start + length
    if reached == start then
      if s.length ≤ start then
        { token? := none, start, stop := start }
      else
        s.skipCharacters v start (start + 1) s.length
    else
      s.skipCharacters v start reached s.length

/-- The next token. A token without characters is found only if `allowEmpty` holds. -/
def Source.nextLexeme (s : Source) (v : Vocabulary) (expected : TokenSet) (allowEmpty : Bool)
    (place : Nat) : Lexeme :=
  let all := expected ∪ v.extraSet
  let special? := (findSpecial v all (s.textAt place)).filter fun found =>
    allowEmpty || 0 < found.skipped + found.length
  match special? with
  | some found =>
    { token? := some found.token, start := place + found.skipped
      stop := place + found.skipped + found.length }
  | none =>
    match findPlain v all (s.textAt place) with
    | .ok found => s.lexeme v expected.contains place found
    | .error _ => s.anyLexeme v expected.contains place

end ClassSpacing.Grammar
