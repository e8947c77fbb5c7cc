import ClassSpacing.Dialect
import ClassSpacing.Tree.Basic

/-!
# Faults of a source

The faults of a source are the spans of its tree that fit nowhere and the tokens that it lacks, in
the order of the source. The walk enters only nodes that are known to hold one.
-/

namespace ClassSpacing

namespace Tree

/-- The faults of the trees that are still to be visited. -/
def faultsFrom : List Tree → List Span
  | [] => []
  | t :: rest =>
    (if t.isFault then [t.span] else []) ++
      faultsFrom (if t.hasFault then t.children ++ rest else rest)
termination_by ts => sizeList ts
decreasing_by
  simp only [sizeList, size_eq]
  split
  · rw [sizeList_append]; omega
  · omega

/-- The faults of a tree, in the order of the source. -/
def faults (t : Tree) : List Span :=
  faultsFrom [t]

end Tree

/-- A reader of source texts. -/
abbrev Reader := Dialect → Text → Tree

/-- Why a source is refused. -/
inductive SourceError where
  | fault (span : Span)
  | faults (count : Nat)
deriving Repr, DecidableEq

/-- The words for a refused source. -/
def SourceError.message : SourceError → String
  | fault span => s!"source has a syntax error at bytes {span.start}..{span.stop}"
  | faults count => s!"source has {count} syntax errors"

namespace Reader

/-- Accepts a source that has no faults. -/
def validate (read : Reader) (dialect : Dialect) (source : Text) : Except SourceError Unit :=
  match (read dialect source).faults with
  | [] => .ok ()
  | [span] => .error (.fault span)
  | spans => .error (.faults spans.length)

/-- Accepts a new version of a source that has no more faults than the old one. Otherwise the faults
    that start where the old version has none are to blame. -/
def validateChange (read : Reader) (dialect : Dialect) (old new : Text) : Except SourceError Unit :=
  let before := (read dialect old).faults
  let after := (read dialect new).faults
  if after.length ≤ before.length then
    .ok ()
  else
    match after.filter fun span => !before.any (·.start == span.start) with
    | [span] => .error (.fault span)
    | _ => .error (.faults (after.length - before.length))

end Reader

end ClassSpacing
