import ClassSpacing.Tree.Basic

/-!
# Tokens

The tokens of a source. A keyword and a punctuation mark are words; the other tokens are classes of
lexemes. Three tokens have no characters of their own: the place where a statement may end without a
semicolon, the place where a declaration without a body may end, and the end of the source.
-/

namespace ClassSpacing.Grammar

/-- A token of a source. -/
inductive Token where
  | endOfSource
  | identifier
  /-- A keyword or a punctuation mark. -/
  | word (text : String)
  /-- The line that tells which program runs a script. -/
  | hashBang
  | privateName
  | number
  | comment
  /-- A comment that starts with `<!--` or `-->`. -/
  | markupComment
  /-- A character inside quotes that is written with a backslash. -/
  | escape
  /-- Text inside double quotes. -/
  | doubleText
  /-- Text inside single quotes. -/
  | singleText
  /-- Text inside the double quotes of an attribute. -/
  | doubleAttribute
  /-- Text inside the single quotes of an attribute. -/
  | singleAttribute
  /-- A character of an element that is written by its name or number. -/
  | characterReference
  /-- A name of an element or attribute that has a hyphen. -/
  | hyphenatedName
  /-- Text between the tags of an element. -/
  | elementText
  | regexPattern
  /-- The slash that ends a regular expression. -/
  | regexEnd
  | regexFlags
  /-- Text inside a template. -/
  | templateText
  /-- The mark between the condition and the first branch of a conditional value. -/
  | conditionMark
  /-- The place where a statement ends without a semicolon. -/
  | statementEnd
  /-- The place where a declaration without a body ends. -/
  | signatureEnd
deriving Repr, BEq, Hashable, Inhabited

/-- How a symbol stands in a tree. -/
structure Appearance where
  name : String
  /-- Whether the symbol has a node of its own. -/
  isShown : Bool := true
  /-- Whether the node stands for a construct, and not for a mere word. -/
  isNamed : Bool := true
deriving Repr, Inhabited

/-- The kind of a node with this appearance. -/
def Appearance.kind (a : Appearance) : Kind :=
  if a.isNamed then
    match a.name with
    | "program" => .program
    | "class_declaration" => .classDeclaration
    | "abstract_class_declaration" => .abstractClassDeclaration
    | "class" => .classExpression
    | "class_body" => .classBody
    | "export_statement" => .exportStatement
    | "method_definition" => .methodDefinition
    | "method_signature" => .methodSignature
    | "abstract_method_signature" => .abstractMethodSignature
    | "object" => .object
    | "interface_body" => .interfaceBody
    | "object_type" => .objectType
    | "decorator" => .decorator
    | "comment" => .comment
    | name => .other name
  else
    .word a.name

namespace Token

/-- The words that are constructs of their own. -/
def namedWords : List String :=
  ["this", "super", "true", "false", "null", "undefined"]

/-- How a token stands in a tree. -/
def appearance : Token → Appearance
  | endOfSource => { name := "end", isShown := false, isNamed := false }
  | identifier => { name := "identifier" }
  | word text => { name := text, isNamed := namedWords.contains text }
  | hashBang => { name := "hash_bang_line" }
  | privateName => { name := "private_property_identifier" }
  | number => { name := "number" }
  | comment => { name := "comment" }
  | markupComment => { name := "html_comment" }
  | escape => { name := "escape_sequence" }
  | doubleText | singleText | doubleAttribute | singleAttribute | templateText =>
    { name := "string_fragment" }
  | characterReference => { name := "html_character_reference" }
  | hyphenatedName => { name := "identifier" }
  | elementText => { name := "jsx_text" }
  | regexPattern => { name := "regex_pattern" }
  | regexEnd => { name := "/", isNamed := false }
  | regexFlags => { name := "regex_flags" }
  | conditionMark => { name := "?", isNamed := false }
  | statementEnd | signatureEnd => { name := "end", isShown := false, isNamed := false }

/-- The tokens that may stand between any two others. -/
def extras : List Token := [comment, markupComment]

/-- The tokens that no word of the rules mentions. -/
def unwritten : List Token :=
  [statementEnd, templateText, conditionMark, markupComment, elementText, signatureEnd]

end Token

end ClassSpacing.Grammar
