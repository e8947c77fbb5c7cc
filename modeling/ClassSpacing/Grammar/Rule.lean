import ClassSpacing.Grammar.Token

/-!
# Grammar rules

A grammar defines each of its symbols by rules over tokens and other symbols. Where the rules leave
open how a text is to be read, the alternatives' ranks, sides and weights decide: a rank or a side
rules one reading out at once, a weight chooses among readings that are all complete.
-/

namespace ClassSpacing.Grammar

/-- What a symbol may be made of. -/
inductive Rule where
  /-- Nothing. -/
  | empty
  | token (t : Token)
  /-- What another symbol may be made of. -/
  | symbol (name : String)
  /-- All of them, one after the other. -/
  | seq (rules : List Rule)
  /-- Any one of them. -/
  | oneOf (rules : List Rule)
  /-- One or more times. -/
  | repeated (rule : Rule)
  /-- The same, under another name in the tree. -/
  | shownAs (name : String) (rule : Rule)
  /-- The same, and it is the name of the construct. -/
  | asName (rule : Rule)
deriving Repr, BEq, Hashable, Inhabited

/-- A quoted word stands for the rule of that word. -/
instance : Coe String Rule := ⟨fun text => .token (.word text)⟩

/-! ### Tokens as rules -/

namespace Rule

/-- The token `identifier`. -/
def identifier : Rule := .token .identifier

/-- The token `hashBang`. -/
def hashBang : Rule := .token .hashBang

/-- The token `privateName`. -/
def privateName : Rule := .token .privateName

/-- The token `number`. -/
def number : Rule := .token .number

/-- The token `escape`. -/
def escape : Rule := .token .escape

/-- The token `doubleText`. -/
def doubleText : Rule := .token .doubleText

/-- The token `singleText`. -/
def singleText : Rule := .token .singleText

/-- The token `doubleAttribute`. -/
def doubleAttribute : Rule := .token .doubleAttribute

/-- The token `singleAttribute`. -/
def singleAttribute : Rule := .token .singleAttribute

/-- The token `characterReference`. -/
def characterReference : Rule := .token .characterReference

/-- The token `hyphenatedName`. -/
def hyphenatedName : Rule := .token .hyphenatedName

/-- The token `elementText`. -/
def elementText : Rule := .token .elementText

/-- The token `regexPattern`. -/
def regexPattern : Rule := .token .regexPattern

/-- The token `regexEnd`. -/
def regexEnd : Rule := .token .regexEnd

/-- The token `regexFlags`. -/
def regexFlags : Rule := .token .regexFlags

/-- The token `templateText`. -/
def templateText : Rule := .token .templateText

/-- The token `conditionMark`. -/
def conditionMark : Rule := .token .conditionMark

/-- The token `statementEnd`. -/
def statementEnd : Rule := .token .statementEnd

/-- The token `signatureEnd`. -/
def signatureEnd : Rule := .token .signatureEnd

end Rule

/-- A symbol by its name. -/
def the (name : String) : Rule := .symbol name

/-- Once or not at all. -/
def opt (rule : Rule) : Rule := .oneOf [rule, .empty]

/-- Any number of times. -/
def many (rule : Rule) : Rule := opt (.repeated rule)

/-- One or more times, with a separator between. -/
def separated (separator rule : Rule) : Rule :=
  .seq [rule, many (.seq [separator, rule])]

/-- One or more times, with commas between. -/
def commas (rule : Rule) : Rule := separated "," rule

/-! ## Alternatives -/

/-- How strongly an alternative binds. -/
inductive Rank where
  | unranked
  | number (n : Int)
  | level (name : String)
deriving Repr, BEq, Hashable, Inhabited

/-- To which side an alternative of one rank is grouped. -/
inductive Side where
  | left
  | right
deriving Repr, BEq, Hashable, Inhabited

/-- One of the ways to define a symbol. -/
structure Alternative where
  rule : Rule
  rank : Rank := .unranked
  side? : Option Side := none
  weight : Int := 0
deriving Repr, Inhabited

/-- What becomes of a symbol in the tree. -/
inductive Role where
  /-- It has a node. -/
  | shown
  /-- It has no node; what it is made of stands in its place. -/
  | hidden
  /-- It is only a name for its rules. -/
  | inlined
deriving Repr, BEq, Inhabited

/-- A symbol with the ways to define it. -/
structure Definition where
  name : String
  role : Role
  /-- The name of its nodes. -/
  shownName : String := name
  alternatives : List Alternative
deriving Repr, Inhabited

/-- A line of a grammar: a definition, or the place of a token in the order of the tokens. -/
inductive Entry where
  | definition (d : Definition)
  | token (t : Token)
deriving Repr, Inhabited

/-- Defines a symbol that has a node. -/
def shown (name : String) (rule : Rule) : Entry :=
  .definition { name, role := .shown, alternatives := [{ rule }] }

/-- Defines a symbol whose nodes have the name of another one. -/
def shownLike (name shownName : String) (alternative : Alternative) : Entry :=
  .definition { name, role := .shown, shownName, alternatives := [alternative] }

/-- Defines a symbol that has a node, by ranked alternatives. -/
def shownBy (name : String) (alternatives : List Alternative) : Entry :=
  .definition { name, role := .shown, alternatives }

/-- Defines a symbol that has no node. -/
def hidden (name : String) (rule : Rule) : Entry :=
  .definition { name, role := .hidden, alternatives := [{ rule }] }

/-- Defines a symbol that has no node, by ranked alternatives. -/
def hiddenBy (name : String) (alternatives : List Alternative) : Entry :=
  .definition { name, role := .hidden, alternatives }

/-- Gives a name to rules. -/
def inlined (name : String) (rule : Rule) : Entry :=
  .definition { name, role := .inlined, alternatives := [{ rule }] }

/-- An alternative of a level. -/
def atLevel (level : String) (rule : Rule) : Alternative :=
  { rule, rank := .level level }

/-- An alternative that is grouped to the left. -/
def leftward (rule : Rule) : Alternative := { rule, side? := some .left }

/-- An alternative that is grouped to the right. -/
def rightward (rule : Rule) : Alternative := { rule, side? := some .right }

/-- An alternative of a level that is grouped to the left. -/
def leftAt (level : String) (rule : Rule) : Alternative :=
  { rule, rank := .level level, side? := some .left }

/-- An alternative of a level that is grouped to the right. -/
def rightAt (level : String) (rule : Rule) : Alternative :=
  { rule, rank := .level level, side? := some .right }

/-- An alternative that is chosen only if there is no other reading. -/
def unlikely (rule : Rule) : Alternative := { rule, weight := -1 }

/-! ## Precedence -/

/-- What an order of precedence lists. -/
inductive Standing where
  | level (name : String)
  /-- All alternatives of a symbol. -/
  | symbol (name : String)
deriving Repr, BEq, Inhabited

/-- The rules of a language: the entries, the symbol that a source is, and its orders of precedence,
    of which the first that lists both of two rivals decides; what is listed earlier wins. -/
structure Rules where
  start : String
  entries : List Entry
  orders : List (List Standing)
deriving Inhabited

end ClassSpacing.Grammar
