import ClassSpacing.Grammar.Scanner
import ClassSpacing.Tree.Basic

/-!
# Branches

A branch is a token or a completed production, with what has been read below it. It keeps the cost
of the faults below it and the weight of the alternatives that were chosen there, by which readings
of one text are compared.
-/

namespace ClassSpacing.Grammar

/-- What a branch is. -/
inductive Label where
  | symbol (number : Nat)
  /-- Skipped tokens that may still grow. -/
  | skipped
  /-- Text that fits nowhere. -/
  | error
deriving BEq, Inhabited

namespace Label

/-- The order of labels: symbols by number, then skipped tokens, then errors. -/
def compare : Label → Label → Ordering
  | .symbol m, .symbol n => Ord.compare m n
  | .symbol _, _ => .lt
  | _, .symbol _ => .gt
  | .skipped, .skipped => .eq
  | .skipped, .error => .lt
  | .error, .skipped => .gt
  | .error, .error => .eq

/-- Whether a label stands for text that fits nowhere. -/
def isFaulty : Label → Bool
  | .symbol _ => false
  | _ => true

end Label

/-- A part of a reading. Places are numbers of characters. -/
structure Branch where
  label : Label
  /-- The production that it completes. -/
  production? : Option Nat := none
  /-- Where what stands before it ends. -/
  before : Nat
  start : Nat
  stop : Nat
  /-- Whether it may stand anywhere, as a comment may. -/
  isExtra : Bool := false
  /-- Whether it stands for a token that the text lacks. -/
  isMissing : Bool := false
  /-- Whether its text is a keyword. -/
  isKeyword : Bool := false
  cost : Nat := 0
  weight : Int := 0
  /-- The number of nodes below it, at any depth. -/
  nodesBelow : Nat := 0
  /-- The number of nodes right below it. -/
  childNodes : Nat := 0
  children : List Branch := []
deriving Inhabited

/-! ## Costs of faults -/

/-- The cost of going on after a fault. -/
def recoveryCost : Nat := 500

/-- The cost of a missing token, besides that of going on. -/
def missingCost : Nat := 110

/-- The cost of each node that fits nowhere. -/
def skippedNodeCost : Nat := 100

/-- The cost of each line break inside text that fits nowhere; a byte of such text costs one. -/
def skippedLineCost : Nat := 30

/-- The cost of the text between two places, if it fits nowhere. -/
def Source.costBetween (s : Source) (start stop : Nat) : Nat :=
  (s.offset stop - s.offset start) + skippedLineCost * (s.row stop - s.row start)

namespace Branch

/-- Whether a branch has a node under its own name. -/
def isShown (l : Language) (b : Branch) : Bool :=
  match b.label with
  | .symbol n => (l.appearance n).isShown
  | .skipped => false
  | .error => true

/-- The branch of a token. -/
def ofLexeme (before : Nat) (x : Lexeme) : Branch :=
  { label := match x.token? with
      | some n => .symbol n
      | none => .error
    before, start := x.start, stop := x.stop, isKeyword := x.isKeyword }

/-- The branch of a token that the text lacks. -/
def missing (token place : Nat) : Branch :=
  { label := .symbol token, before := place, start := place, stop := place, isMissing := true
    cost := missingCost + recoveryCost }

/-- The number of the token that a branch is labelled with. -/
def symbol? (b : Branch) : Option Nat :=
  match b.label with
  | .symbol n => some n
  | _ => none

/-- What a branch adds to the length of a reading. -/
def nodeCount (l : Language) (b : Branch) : Nat :=
  b.nodesBelow + (if b.isShown l then 1 else 0) + (if b.label == .skipped then 1 else 0)

/-- Sums over the children of a branch. -/
structure Sums where
  cost : Nat := 0
  weight : Int := 0
  nodesBelow : Nat := 0
  childNodes : Nat := 0
  /-- The number of children that are parts of the production. -/
  parts : Nat := 0

/-- Adds a child to the sums of a branch with a label and the parts of its production. -/
def Sums.add (l : Language) (label : Label) (parts : Array (Part Nat)) (s : Sums) (c : Branch) :
    Sums :=
  let shown := c.isShown l
  let renamed := !c.isExtra && c.label != .symbol 0 &&
    (parts[s.parts]?.bind (·.shownAs?)).isSome
  let skippedNodes :=
    if label.isFaulty && !c.isExtra && !(c.label == .error && c.children.isEmpty) then
      if shown then 1 else c.childNodes
    else
      0
  { cost := s.cost + (if c.label == .skipped then 0 else c.cost) + skippedNodeCost * skippedNodes
    weight := s.weight + c.weight
    nodesBelow := s.nodesBelow + c.nodesBelow + (if shown || renamed then 1 else 0)
    childNodes := s.childNodes + (if shown || renamed then 1 else c.childNodes)
    parts := if c.isExtra then s.parts else s.parts + 1 }

/-- The parts of a production, if there is one. -/
def partsOf (l : Language) (production? : Option Nat) : Array (Part Nat) :=
  match production? with
  | some n => (l.production n).parts
  | none => #[]

/-- A branch over others. Without any it stands at `place`. -/
def ofChildren (l : Language) (s : Source) (label : Label) (production? : Option Nat)
    (place : Nat) (children : List Branch) : Branch :=
  let sums := children.foldl (Sums.add l label (partsOf l production?)) {}
  let before := (children.head?.map (·.before)).getD place
  let start := (children.head?.map (·.start)).getD place
  let stop := (children.getLast?.map (·.stop)).getD place
  { label, production?, before, start, stop, children
    cost := sums.cost +
      if label.isFaulty then recoveryCost + s.costBetween start stop else 0
    weight := sums.weight
    nodesBelow := sums.nodesBelow
    childNodes := sums.childNodes }

/-- Splits branches into those up to the last one that is no extra, and the extras after it. -/
def splitExtras (branches : List Branch) : List Branch × List Branch :=
  let extras := (branches.reverse.takeWhile (·.isExtra)).reverse
  (branches.take (branches.length - extras.length), extras)

/-- Whether two branches that end at one place can be taken for each other. -/
def resembles (b c : Branch) : Bool :=
  b.label == c.label &&
    (0 < b.cost && 0 < c.cost ||
      b.start - b.before == c.start - c.before && b.stop - b.start == c.stop - c.start &&
        b.children.length == c.children.length && b.isExtra == c.isExtra)

mutual

/-- The order of branches by their labels and their numbers of children, from the top down. -/
def compare (b c : Branch) : Ordering :=
  match b, c with
  | ⟨bl, _, _, _, _, _, _, _, _, _, _, _, bs⟩, ⟨cl, _, _, _, _, _, _, _, _, _, _, _, cs⟩ =>
    ((bl.compare cl).then (Ord.compare bs.length cs.length)).then (compareAll bs cs)

/-- The order of rows of branches of one length. -/
def compareAll : List Branch → List Branch → Ordering
  | b :: bs, c :: cs => (compare b c).then (compareAll bs cs)
  | _, _ => .eq

end

/-- Whether the second one of two readings of the same text is better: fewer faults, then a higher
    weight, then the lower order. With faults the later reading is preferred. -/
def isBettered (b c : Branch) : Bool :=
  if c.cost != b.cost then c.cost < b.cost
  else if c.weight != b.weight then b.weight < c.weight
  else 0 < b.cost || compare b c == .gt

/-! ## Trees -/

mutual

/-- Puts the nodes of a branch before others. Where its production gives it another name or makes it
    the name of the construct, that holds of its node, or of the nodes below it if it has none. -/
def addNodes (l : Language) (s : Source) (shownAs? : Option String) (isName : Bool)
    (b : Branch) (rest : List Tree) : List Tree :=
  match b with
  | ⟨label, production?, _, start, stop, _, isMissing, _, cost, _, _, _, children⟩ =>
    let node (kind : Kind) : List Tree :=
      { kind, isName, isMissing, hasFault := 0 < cost || kind == .error
        span := ⟨s.offset start, s.offset stop⟩
        children := addAll l s (partsOf l production?) false 0 children [] } :: rest
    match label with
    | .error => node .error
    | .skipped => addAll l s #[] isName 0 children rest
    | .symbol n =>
      let own := l.appearance n
      match shownAs? with
      | some name => node { own with name, isNamed := true : Appearance }.kind
      | none =>
        if own.isShown then node own.kind
        else addAll l s (partsOf l production?) isName 0 children rest

/-- Puts the nodes of branches before others. The first branch that is no extra is the part with the
    number `n` of a production. -/
def addAll (l : Language) (s : Source) (parts : Array (Part Nat)) (areNames : Bool) (n : Nat) :
    List Branch → List Tree → List Tree
  | [], rest => rest
  | b :: bs, rest =>
    let isExtra := match b with | ⟨_, _, _, _, _, isExtra, _, _, _, _, _, _, _⟩ => isExtra
    if isExtra then
      addNodes l s none areNames b (addAll l s parts areNames n bs rest)
    else
      let part := parts.getD n default
      addNodes l s part.shownAs? (areNames || part.isName) b
        (addAll l s parts areNames (n + 1) bs rest)

end

/-- The tree of a whole reading. -/
def toTree (l : Language) (s : Source) (b : Branch) : Tree :=
  (addNodes l s none false b []).headD (Tree.ofChildren .program ⟨0, s.offset s.length⟩ [])

end Branch

end ClassSpacing.Grammar
