import ClassSpacing.Grammar.Branch

/-!
# Stacks

The readings of a text that are followed at the same time share their stacks: a node lies on those
nodes from which its state was reached, and the links to them hold the branches that were read in
between. So the stacks of all readings are one graph. Nodes have numbers, and a node lies only on
nodes that were there before it, except where two nodes became one.
-/

namespace ClassSpacing.Grammar

/-- What lies below a node, and the branch in between. A link without a branch marks a fault. -/
structure Link where
  node : Nat
  branch? : Option Branch := none
deriving Inhabited

/-- A node of the graph of stacks. -/
structure Node where
  state : Nat
  place : Nat := 0
  links : Array Link := #[]
  /-- The cost of all faults below. -/
  cost : Nat := 0
  /-- The weight of all alternatives that were chosen below. -/
  weight : Int := 0
  /-- The number of tree nodes below. -/
  count : Nat := 0
deriving Inhabited

/-- The graph of stacks: its nodes, by number. -/
abbrev Stack := Array Node

/-- Whether two links have branches that can be taken for each other. -/
def Link.resembles (x y : Link) : Bool :=
  match x.branch?, y.branch? with
  | some b, some c => b.resembles c
  | none, none => true
  | _, _ => false

/-- The weight of the branch of a link. -/
def Link.weight (x : Link) : Int := (x.branch?.map (·.weight)).getD 0

/-- Whether two readings that stand at these nodes can be followed as one. -/
def Node.agrees (m n : Node) : Bool :=
  m.state == n.state && m.place == n.place && m.cost == n.cost

namespace Stack

/-- A node by its number. -/
def node (s : Stack) (n : Nat) : Node := s.getD n default

/-- The node on top of another one after a branch. -/
def above (s : Stack) (l : Language) (n : Nat) (branch? : Option Branch) (state : Nat) : Node :=
  let base := s.node n
  let links := #[{ node := n, branch? : Link }]
  match branch? with
  | some b =>
    { state, links, place := b.stop, cost := base.cost + b.cost, weight := base.weight + b.weight
      count := base.count + b.nodeCount l }
  | none => { base with state, links }

/-- The most links of a node. -/
def maxLinks : Nat := 8

/-- Adds a link to a node. Where the node has a link with such a branch already, what lies below the
    two becomes one. -/
def addLink (l : Language) : Nat → Stack → Nat → Link → Stack
  | 0, s, _, _ => s
  | fuel + 1, s, n, link =>
    if link.node == n then
      s
    else
      let top := s.node n
      let below := s.node link.node
      let weight := below.weight + link.weight
      let same := top.links.findIdx? fun x =>
        x.resembles link && (x.node == link.node || (s.node x.node).agrees below)
      match same with
      | some i =>
        let old := top.links.getD i default
        if old.node == link.node then
          if old.weight < link.weight then
            s.modify n fun top => { top with links := top.links.setIfInBounds i link, weight }
          else
            s
        else
          let s := below.links.foldl (fun s x => addLink l fuel s old.node x) s
          s.modify n fun top => { top with weight := max top.weight weight }
      | none =>
        if top.links.size == maxLinks then
          s
        else
          let count := below.count + ((link.branch?.map (·.nodeCount l)).getD 0)
          s.modify n fun top =>
            { top with
              links := top.links.push link
              count := max top.count count
              weight := max top.weight weight }

/-- Adds all links of a node to another one. -/
def join (s : Stack) (l : Language) (n m : Nat) : Stack :=
  (s.node m).links.foldl (fun s link => addLink l (s.size + 1) s n link) s

/-! ## Ways down -/

/-- A way down from the top: the node that it has come to, the branches that it has passed, lowest
    first, and how many of them are parts of productions. -/
structure Trail where
  node : Nat
  branches : List Branch := []
  count : Nat := 0
deriving Inhabited

/-- The way on along a link. -/
def Trail.along (t : Trail) (link : Link) : Trail :=
  match link.branch? with
  | some b =>
    { node := link.node, branches := b :: t.branches
      count := if b.isExtra then t.count else t.count + 1 }
  | none => { t with node := link.node, count := t.count + 1 }

/-- What is to be done with a way down. -/
structure Verdict where
  /-- Whether it has come to where it should. -/
  isFound : Bool
  /-- Whether it goes no further. -/
  isOver : Bool

/-- The ways that have come to one node, each with its branches. -/
structure Landing where
  node : Nat
  ways : List (List Branch)
deriving Inhabited

/-- Adds a way to the landing at its node. -/
def land (node : Nat) (branches : List Branch) : List Landing → List Landing
  | [] => [{ node, ways := [branches] }]
  | x :: rest =>
    if x.node == node then { x with ways := x.ways ++ [branches] } :: rest
    else x :: land node branches rest

/-- The most ways that are followed at the same time. -/
def maxTrails : Nat := 64

/-- Ways down in the middle of a round: what is remembered, those that have been taken one step,
    those that have branched off, and those that have landed. -/
structure Walk (σ : Type) where
  memory : σ
  kept : Array Trail := #[]
  added : Array Trail := #[]
  landings : List Landing := []

/-- Takes each way one step down. -/
def round {σ : Type} (s : Stack) (visit : σ → Node → Trail → σ × Verdict) (w : Walk σ) :
    List Trail → Walk σ
  | [] => w
  | trail :: rest =>
    let node := s.node trail.node
    let (memory, verdict) := visit w.memory node trail
    let landings :=
      if verdict.isFound then land trail.node trail.branches w.landings else w.landings
    let w := { w with memory, landings }
    match node.links.toList with
    | [] => round s visit w rest
    | first :: others =>
      if verdict.isOver then
        round s visit w rest
      else
        let room := maxTrails - (w.kept.size + w.added.size + 1 + rest.length)
        let added := w.added ++ ((others.take room).map trail.along)
        round s visit { w with added, kept := w.kept.push (trail.along first) } rest

/-- Takes all ways down, round by round. -/
def rounds {σ : Type} (s : Stack) (visit : σ → Node → Trail → σ × Verdict) :
    Nat → Walk σ → List Trail → σ × List Landing
  | 0, w, _ => (w.memory, w.landings)
  | _, w, [] => (w.memory, w.landings)
  | fuel + 1, w, trails =>
    let w := round s visit w trails
    rounds s visit fuel { w with kept := #[], added := #[] } (w.kept.toList ++ w.added.toList)

/-- Takes all ways down from a node. -/
def walk {σ : Type} (s : Stack) (visit : σ → Node → Trail → σ × Verdict) (memory : σ) (n : Nat) :
    σ × List Landing :=
  rounds s visit (s.size + 1) { memory } [{ node := n }]

/-- The ways down past a number of parts. -/
def past (s : Stack) (count n : Nat) : List Landing :=
  let visit (_ : Unit) (_ : Node) (t : Trail) : Unit × Verdict :=
    ((), { isFound := t.count == count, isOver := t.count == count })
  (s.walk visit () n).2

/-- The ways down to the bottom. -/
def toBottom (s : Stack) (n : Nat) : List Landing :=
  let visit (_ : Unit) (node : Node) (_ : Trail) : Unit × Verdict :=
    ((), { isFound := node.links.isEmpty, isOver := false })
  (s.walk visit () n).2

/-- The first way down past a branch that fits nowhere, if such a branch is on top. -/
def pastError? (s : Stack) (n : Nat) : Option Landing :=
  let isError (b : Branch) : Bool := b.label == .error
  let visit (found : Bool) (_ : Node) (t : Trail) : Bool × Verdict :=
    match t.branches.getLast? with
    | some b =>
      if !found && isError b then (true, { isFound := true, isOver := true })
      else (found, { isFound := false, isOver := true })
    | none => (found, { isFound := false, isOver := false })
  if (s.node n).links.any fun link => link.branch?.any isError then
    (s.walk visit false n).2.head?
  else
    none

/-- A state that lies below the top, to which a reading can go back. -/
structure Landmark where
  place : Nat
  depth : Nat
  state : Nat
deriving Inhabited

/-- The greatest depth of a landmark. -/
def maxDepth : Nat := 16

/-- The states below a node, each depth's own only once. -/
def landmarks (s : Stack) (n : Nat) : List Landmark :=
  let visit (found : List Landmark) (node : Node) (t : Trail) : List Landmark × Verdict :=
    if maxDepth < t.count then
      (found, { isFound := false, isOver := true })
    else
      let level := found.takeWhile fun x => t.count ≤ x.depth
      if level.any fun x => x.depth == t.count && x.state == node.state then
        (found, { isFound := false, isOver := false })
      else
        ({ place := node.place, depth := t.count, state := node.state } :: found,
          { isFound := false, isOver := false })
  (s.walk visit [] n).1.reverse

/-- Whether something has been read since a fault, from a node on down. -/
def hasAdvanced (s : Stack) (countAtFault : Nat) : Nat → Nat → Bool
  | 0, _ => false
  | fuel + 1, n =>
    let node := s.node n
    match node.links.toList with
    | ⟨below, some b⟩ :: _ =>
      b.before < b.stop || countAtFault < node.count && b.cost == 0 &&
        hasAdvanced s countAtFault fuel below
    | _ => false

end Stack

end ClassSpacing.Grammar
