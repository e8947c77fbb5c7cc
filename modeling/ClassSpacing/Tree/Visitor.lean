import ClassSpacing.Tree.Members

/-!
# Visitors

A visitor is handed the members of a tree one after the other, as a walk over the tree meets them:
constructors by one callback and methods by another. What the callbacks have done so far is a state,
which each of them gets and hands on.
-/

namespace ClassSpacing

/-- What is done with the members that a walk meets. -/
structure Visitor (σ : Type) where
  onConstructor : Member → σ → σ
  onMethod : Member → σ → σ

namespace Visitor

variable {σ : Type}

/-- Hands a member to the callback for its kind. -/
def visit (v : Visitor σ) (state : σ) (m : Member) : σ :=
  match m.kind with
  | .constructor => v.onConstructor m state
  | .method => v.onMethod m state

/-- Visits the member that a site declares, if any. -/
def visitSite (v : Visitor σ) (source : Text) (state : σ) (s : Site) : σ :=
  match s.member? source with
  | some m => v.visit state m
  | none => state

mutual

/-- Visits the members of a tree that stands in the given surroundings. -/
def walkIn (v : Visitor σ) (source : Text) (before around : List Tree) (state : σ) : Tree → σ
  | ⟨kind, span, isName, isMissing, hasFault, children⟩ =>
    let node : Tree := ⟨kind, span, isName, isMissing, hasFault, children⟩
    walkInList v source (node :: around) [] (v.visitSite source state ⟨node, before, around⟩)
      children

/-- Visits the members of the named ones among some siblings. -/
def walkInList (v : Visitor σ) (source : Text) (around before : List Tree) (state : σ) :
    List Tree → σ
  | [] => state
  | t :: rest =>
    if t.isNamed then
      walkInList v source around (t :: before) (walkIn v source before around state t) rest
    else
      walkInList v source around before state rest

end

/-- Visits every member of a tree, nested ones included. -/
def walk (v : Visitor σ) (source : Text) (t : Tree) (state : σ) : σ :=
  v.walkIn source [] [] state t

/-- Lists the members. -/
def collector : Visitor (List Member) where
  onConstructor m members := members ++ [m]
  onMethod m members := members ++ [m]

/-- Does what another visitor does, and counts the calls of its two callbacks. -/
def counted (v : Visitor σ) : Visitor (σ × Nat × Nat) where
  onConstructor
    | m, (state, constructors, methods) => (v.onConstructor m state, constructors + 1, methods)
  onMethod
    | m, (state, constructors, methods) => (v.onMethod m state, constructors, methods + 1)

end Visitor

end ClassSpacing
