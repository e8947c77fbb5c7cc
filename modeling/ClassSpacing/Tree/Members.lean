import ClassSpacing.Tree.Basic

/-!
# Members

A member is a constructor or a method that is declared in the body of a class, in an object literal
or in the description of a type; accessors are not members. `Tree.members` lists the members of a
tree, a member before those nested inside it, each with what the tree says around it.
-/

namespace ClassSpacing

/-- A named node together with its surroundings. -/
structure Site where
  node : Tree
  /-- The named siblings before the node, nearest first. -/
  before : List Tree
  /-- The nodes around it, innermost first. -/
  around : List Tree
deriving Inhabited

mutual

/-- The sites of a tree that stands in the given surroundings, a node before those below it. -/
def Tree.sitesIn (before around : List Tree) : Tree → List Site
  | ⟨kind, span, isName, isMissing, hasFault, children⟩ =>
    let node : Tree := ⟨kind, span, isName, isMissing, hasFault, children⟩
    ⟨node, before, around⟩ :: Tree.sitesInList (node :: around) [] children

/-- The sites of the named ones among some siblings. -/
def Tree.sitesInList (around before : List Tree) : List Tree → List Site
  | [] => []
  | t :: rest =>
    if t.isNamed then
      Tree.sitesIn before around t ++ Tree.sitesInList around (t :: before) rest
    else
      Tree.sitesInList around before rest

end

/-- The sites that are reached from the top of a tree through named nodes. -/
def Tree.sites (t : Tree) : List Site :=
  t.sitesIn [] []

/-- The two kinds of members. -/
inductive MemberKind where
  | constructor
  | method
deriving Repr, DecidableEq, Inhabited

/-- What a member is declared in. -/
inductive Container where
  /-- The body of a class declaration, or of a class that is exported as such. -/
  | classBody
  /-- An object literal. -/
  | object
  /-- An interface, a type, or a class that is an expression. -/
  | other
deriving Repr, DecidableEq, Inhabited

/-- A member of a parse tree. -/
structure Member where
  /-- The declaration. -/
  node : Tree
  /-- The topmost decorator of the declaration, or the declaration itself. -/
  head : Tree
  /-- The named siblings before the head, nearest first. -/
  aboveHead : List Tree
  /-- The node that the declaration is a part of. -/
  body? : Option Tree
  kind : MemberKind
  container : Container
deriving Inhabited

namespace Site

/-- Whether a node declares a constructor, a method or an accessor. -/
def isDeclaration (s : Site) : Bool :=
  match s.node.kind with
  | .methodDefinition | .methodSignature | .abstractMethodSignature => true
  | _ => false

/-- Whether a declaration has the word that makes it an accessor. -/
def isAccessor (s : Site) : Bool :=
  s.node.children.any fun t => t.kind == .word "get" || t.kind == .word "set"

/-- The topmost decorator above a node, with the siblings before it. Comments between decorators are
    passed over, and `best` is what was found so far. -/
def decorated (best : Tree × List Tree) : List Tree → Tree × List Tree
  | [] => best
  | t :: rest =>
    match t.kind with
    | .decorator => decorated (t, rest) rest
    | .comment => decorated best rest
    | _ => best

/-- Takes quotes away from both ends of a name. -/
def unquoted (name : Text) : Text :=
  let isQuote (c : Char) : Bool := c == '"' || c == '\''
  ((name.dropWhile isQuote).reverse.dropWhile isQuote).reverse

/-- Whether a declaration is a constructor or a method. -/
def memberKind (source : Text) (s : Site) : MemberKind :=
  match s.node.name? with
  | some name =>
    let text := (source.slice? name.span.start name.span.stop).getD []
    if unquoted text == "constructor".toList then .constructor else .method
  | none => .method

/-- What a declaration is declared in. -/
def container (s : Site) : Container :=
  match (s.around.map Tree.kind : List Kind) with
  | .classBody :: .classDeclaration :: _ => .classBody
  | .classBody :: .abstractClassDeclaration :: _ => .classBody
  | .classBody :: .classExpression :: .exportStatement :: _ => .classBody
  | .object :: _ => .object
  | _ => .other

/-- The member that a site declares, if any. -/
def member? (source : Text) (s : Site) : Option Member :=
  if s.isDeclaration && !s.isAccessor then
    let (head, aboveHead) := decorated (s.node, s.before) s.before
    some {
      node := s.node, head, aboveHead
      body? := s.around.head?
      kind := s.memberKind source
      container := s.container }
  else
    none

end Site

/-- The members of the tree of a source. -/
def Tree.members (source : Text) (t : Tree) : List Member :=
  t.sites.filterMap (Site.member? source)

namespace Member

/-- Where a member starts, decorators included. -/
def start (m : Member) : Nat := m.head.span.start

/-- Where a member ends. -/
def stop (m : Member) : Nat := m.node.span.stop

/-- Whether only comments come before a member in its body. -/
def isFirst (m : Member) : Bool :=
  m.aboveHead.all (·.kind == .comment)

end Member

end ClassSpacing
