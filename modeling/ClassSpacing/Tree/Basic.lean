import ClassSpacing.Text.Basic

/-!
# Parse trees

A parse tree has a node for each construct of the source and a leaf for each token and comment. The
rule looks at few kinds of nodes; the others carry the name of their kind only. Nothing is assumed
about the spans of a tree, so that what is said about trees holds for those of broken sources too.
-/

namespace ClassSpacing

/-- The bytes from `start` up to, and without, `stop`. -/
structure Span where
  start : Nat
  stop : Nat
deriving Repr, DecidableEq, Inhabited

/-- What a node of a parse tree is. -/
inductive Kind where
  | program
  | classDeclaration
  | abstractClassDeclaration
  /-- A class that is written as an expression. -/
  | classExpression
  | classBody
  | exportStatement
  | methodDefinition
  /-- A method without a body. -/
  | methodSignature
  | abstractMethodSignature
  /-- An object literal. -/
  | object
  | interfaceBody
  /-- A type that lists the members of an object. -/
  | objectType
  | decorator
  | comment
  /-- Text that fits nowhere. -/
  | error
  /-- A keyword or a punctuation mark. -/
  | word (text : String)
  /-- Any other construct. -/
  | other (name : String)
deriving Repr, DecidableEq, Inhabited

namespace Kind

/-- The name of a kind of node. -/
def name : Kind → String
  | program => "program"
  | classDeclaration => "class_declaration"
  | abstractClassDeclaration => "abstract_class_declaration"
  | classExpression => "class"
  | classBody => "class_body"
  | exportStatement => "export_statement"
  | methodDefinition => "method_definition"
  | methodSignature => "method_signature"
  | abstractMethodSignature => "abstract_method_signature"
  | object => "object"
  | interfaceBody => "interface_body"
  | objectType => "object_type"
  | decorator => "decorator"
  | comment => "comment"
  | error => "ERROR"
  | word text => text
  | other name => name

/-- Whether a node of this kind stands for a construct, and not for a mere word. -/
def isNamed : Kind → Bool
  | word _ => false
  | _ => true

end Kind

/-- A node of a parse tree with what is below it. -/
structure Tree where
  kind : Kind
  span : Span
  /-- Whether the node is the name of the construct above it. -/
  isName : Bool := false
  /-- Whether the node stands for a token that the source lacks. -/
  isMissing : Bool := false
  /-- Whether the tree is known to hold text that fits nowhere, or a missing token. -/
  hasFault : Bool := false
  children : List Tree := []
deriving Inhabited

namespace Tree

/-- Whether a node stands for a construct or a comment. -/
def isNamed (t : Tree) : Bool := t.kind.isNamed

/-- The child that names a construct. -/
def name? (t : Tree) : Option Tree :=
  t.children.find? (·.isName)

/-- Whether a node is itself a fault of the source. -/
def isFault (t : Tree) : Bool :=
  t.kind == .error || t.isMissing

/-- A node over some trees, which is faulty if it is a fault or if one of them is faulty. -/
def ofChildren (kind : Kind) (span : Span) (children : List Tree) : Tree :=
  { kind, span, children, hasFault := kind == .error || children.any (·.hasFault) }

mutual

/-- The number of nodes of a tree. -/
def size : Tree → Nat
  | ⟨_, _, _, _, _, children⟩ => sizeList children + 1

/-- The number of nodes of some trees. -/
def sizeList : List Tree → Nat
  | [] => 0
  | t :: rest => t.size + sizeList rest

end

theorem sizeList_append (ts us : List Tree) : sizeList (ts ++ us) = sizeList ts + sizeList us := by
  induction ts with
  | nil => simp [sizeList]
  | cons t ts ih => simp [sizeList, ih, Nat.add_assoc]

theorem size_eq (t : Tree) : t.size = sizeList t.children + 1 := by
  cases t; rw [size]

end Tree

end ClassSpacing
