import ClassSpacing.Grammar.Automaton
import ClassSpacing.Grammar.Stack

/-!
# Versions

A version is one reading of the text so far. Versions are followed side by side; two that come to
the same state at the same place at the same cost are followed as one. A version that meets a token
that does not fit waits, and goes on only if no other version does.
-/

namespace ClassSpacing.Grammar

/-- How a version stands. -/
inductive Status where
  | active
  /-- It is not followed any more. -/
  | halted
  /-- It waits at a token that does not fit. -/
  | paused (token : Branch)
deriving Inhabited

/-- One reading of the text so far. -/
structure Version where
  /-- The top of its stack. -/
  node : Nat
  status : Status := .active
  /-- The number of tree nodes when it last met a fault. -/
  countAtFault : Nat := 0
  /-- The states that it can go back to after a fault. -/
  landmarks? : Option (List Stack.Landmark) := none
deriving Inhabited

namespace Version

/-- Whether a version is followed. -/
def isActive (v : Version) : Bool :=
  match v.status with
  | .active => true
  | _ => false

/-- Whether a version is not followed any more. -/
def isHalted (v : Version) : Bool :=
  match v.status with
  | .halted => true
  | _ => false

/-- Whether a version waits. -/
def isPaused (v : Version) : Bool :=
  match v.status with
  | .paused _ => true
  | _ => false

end Version

/-- How far the reading of a source has come. -/
structure Progress where
  stack : Stack
  versions : Array Version
  /-- The best complete reading. -/
  finished? : Option Branch := none
  /-- The number of complete readings. -/
  finishedCount : Nat := 0
  /-- The tokens that have been found. -/
  lexemes : Std.HashMap Nat Lexeme := ∅
deriving Inhabited

/-- What stays the same while a source is read. -/
structure Setting where
  language : Language
  vocabulary : Vocabulary
  source : Source

/-- A step of reading. -/
abbrev ReadM := ReaderT Setting (StateT Automaton (StateM Progress))

namespace ReadM

/-- The most versions that are followed. -/
def maxVersions : Nat := 6

/-- How many more versions may arise before they are counted. -/
def versionSlack : Nat := 4

/-- Asks the automaton. -/
def ask {α : Type} (x : StateM Automaton α) : ReadM α := fun _ a => pure (x.run a)

/-- The language that is read. -/
def language : ReadM Language := return (← readThe Setting).language

/-- The source that is read. -/
def source : ReadM Source := return (← readThe Setting).source

/-- The number of versions. -/
def versionCount : ReadM Nat := return (← getThe Progress).versions.size

/-- A version by its number. -/
def version (v : Nat) : ReadM Version := return (← getThe Progress).versions.getD v default

/-- The top of the stack of a version. -/
def top (v : Nat) : ReadM Node := do
  let p ← getThe Progress
  return p.stack.node (p.versions.getD v default).node

/-- Changes a version. -/
def modifyVersion (v : Nat) (f : Version → Version) : ReadM Unit :=
  modifyThe Progress fun p => { p with versions := p.versions.modify v f }

/-- Adds a version and gives its number. -/
def addVersion (x : Version) : ReadM Nat :=
  modifyGetThe Progress fun p =>
    (p.versions.size, { p with versions := p.versions.push x })

/-- Removes a version. -/
def removeVersion (v : Nat) : ReadM Unit :=
  modifyThe Progress fun p => { p with versions := p.versions.eraseIdxIfInBounds v }

/-- Stops following a version. -/
def halt (v : Nat) : ReadM Unit :=
  modifyVersion v fun x => { x with status := .halted }

/-- Puts a version in the place of an earlier one. -/
def replace (v w : Nat) : ReadM Unit := do
  if v != w then
    let new ← version v
    let old ← version w
    modifyVersion w fun _ => { new with landmarks? := new.landmarks? <|> old.landmarks? }
    removeVersion v

/-- Reads a branch. A fault stands where there is none. -/
def push (v : Nat) (branch? : Option Branch) (state : Nat) : ReadM Unit := do
  let l ← language
  modifyThe Progress fun p =>
    let old := p.versions.getD v default
    let node := p.stack.above l old.node branch? state
    let number := p.stack.size
    { p with
      stack := p.stack.push node
      versions := p.versions.modify v fun x =>
        { x with
          node := number
          countAtFault := if branch?.isNone then node.count else x.countAtFault } }

/-- Follows the ways down from a version that end at one of some landings: adds a version for each
    of them, and gives their numbers. -/
def follow (v : Nat) (landings : List Stack.Landing) : ReadM (List (Nat × List (List Branch))) := do
  let x ← version v
  landings.mapM fun landing => do
    let w ← addVersion { node := landing.node, countAtFault := x.countAtFault }
    return (w, landing.ways)

/-- Takes branches off the stack of a version, as many as are the parts of a production. -/
def pop (v count : Nat) : ReadM (List (Nat × List (List Branch))) := do
  let p ← getThe Progress
  follow v (p.stack.past count (p.versions.getD v default).node)

/-- Whether two versions can be followed as one. -/
def canMerge (v w : Nat) : ReadM Bool := do
  return (← version v).isActive && (← version w).isActive && (← top v).agrees (← top w)

/-- Makes two versions one, if they can be followed as one. -/
def merge (v w : Nat) : ReadM Bool := do
  if ← canMerge v w then
    let l ← language
    let n := (← version v).node
    let m := (← version w).node
    modifyThe Progress fun p => { p with stack := p.stack.join l n m }
    let node ← top v
    if node.state == Automaton.errorState then
      modifyVersion v fun x => { x with countAtFault := node.count }
    removeVersion w
    return true
  else
    return false

/-- Makes a version one with the first of some others that it can be followed with. -/
def mergeIntoAny (w : Nat) : List Nat → ReadM Bool
  | [] => return false
  | v :: rest => do
    if ← merge v w then return true else mergeIntoAny w rest

/-! ## Comparing versions -/

/-- The cost of the faults of a version. One that stands at a fault has still to go on. -/
def faultCost (v : Nat) : ReadM Nat := do
  let x ← version v
  let node ← top v
  let isOpen := node.state == Automaton.errorState &&
    match node.links[0]? with
    | some link => link.branch?.isNone
    | none => false
  return node.cost + if x.isPaused || isOpen then recoveryCost else 0

/-- The number of tree nodes that a version has read since its last fault. -/
def countSinceFault (v : Nat) : ReadM Nat := do
  let node ← top v
  modifyVersion v fun x => { x with countAtFault := min x.countAtFault node.count }
  return node.count - (← version v).countAtFault

/-- What versions are compared by. -/
structure Merit where
  cost : Nat
  countSinceFault : Nat
  weight : Int
  isAtFault : Bool

/-- What a version is compared by. -/
def merit (v : Nat) : ReadM Merit := do
  let x ← version v
  let node ← top v
  let cost ← faultCost v
  return { cost := if x.isPaused then cost + skippedNodeCost else cost
           countSinceFault := ← countSinceFault v
           weight := node.weight
           isAtFault := x.isPaused || node.state == Automaton.errorState }

/-- How two versions compare. -/
inductive Preference where
  /-- The first is so much better that the other is given up. -/
  | takeFirst
  | preferFirst
  | none
  | preferSecond
  /-- The second is so much better that the other is given up. -/
  | takeSecond

/-- The difference of costs that is decisive, for a version that has just met a fault. -/
def decisiveDifference : Nat := 18 * skippedNodeCost

/-- Compares two versions: one that is not at a fault is preferred, then the one with the lower
    cost, then the one with the higher weight. A version is taken if the other is at a fault and no
    cheaper, or if its cost is lower by much and it has read much since its fault. -/
def Merit.compare (a b : Merit) : Preference :=
  if !a.isAtFault && b.isAtFault then
    if a.cost < b.cost then .takeFirst else .preferFirst
  else if a.isAtFault && !b.isAtFault then
    if b.cost < a.cost then .takeSecond else .preferSecond
  else if a.cost < b.cost then
    if decisiveDifference < (b.cost - a.cost) * (1 + a.countSinceFault) then .takeFirst
    else .preferFirst
  else if b.cost < a.cost then
    if decisiveDifference < (a.cost - b.cost) * (1 + b.countSinceFault) then .takeSecond
    else .preferSecond
  else if b.weight < a.weight then .preferFirst
  else if a.weight < b.weight then .preferSecond
  else .none

/-- Whether one of some versions, at the same place or further, is better than the version `v` if
    that goes on at a cost. -/
def isOutdoneBy (v place : Nat) (going : Merit) : List Nat → ReadM Bool
  | [] => return false
  | w :: rest => do
    let other ← version w
    if w == v || !other.isActive || (← top w).place < place then
      isOutdoneBy v place going rest
    else
      match going.compare (← merit w) with
      | .takeSecond => return true
      | .preferSecond =>
        if ← canMerge w v then return true else isOutdoneBy v place going rest
      | _ => isOutdoneBy v place going rest

/-- Whether there is something better than to go on with a version at a cost. -/
def isOutdone (v cost : Nat) : ReadM Bool := do
  let p ← getThe Progress
  if p.finished?.any fun b => b.cost ≤ cost then
    return true
  else
    let node ← top v
    let going : Merit :=
      { cost, countSinceFault := ← countSinceFault v, weight := node.weight, isAtFault := false }
    isOutdoneBy v node.place going (List.range p.versions.size)

end ReadM

end ClassSpacing.Grammar
