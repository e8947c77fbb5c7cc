import ClassSpacing.Grammar.Version

/-!
# Completing productions

When the parts of a production have been read, they are taken off the stack and one branch is put in
their place. The stack may have been reached in several ways; each way down to another node is a
version of its own, and of the ways down to one node only the best is kept.
-/

namespace ClassSpacing.Grammar.ReadM

/-- The better one of two readings; each has the extras that stand after it. -/
def betterReading (a b : Branch × List Branch) : Branch × List Branch :=
  if a.1.isBettered b.1 then b else a

/-- The best of the ways to complete a production, with the extras after it. -/
def bestReading (l : Language) (s : Source) (production place : Nat)
    (ways : List (List Branch)) : Option (Branch × List Branch) :=
  let p := l.production production
  let readings := ways.map fun way =>
    let (parts, extras) := Branch.splitExtras way
    (Branch.ofChildren l s (.symbol p.owner) (some production) place parts, extras)
  match readings with
  | [] => none
  | first :: others =>
    let (best, extras) := others.foldl betterReading first
    some ({ best with weight := best.weight + p.weight }, extras)

/-- Completes a production on the stack of a version that was made for it, and makes it one with an
    earlier version if there is such a one, the version `v` apart. -/
def completeOn (v production w : Nat) (ways : List (List Branch)) : ReadM Bool := do
  let l ← language
  let node ← top w
  match bestReading l (← source) production node.place ways with
  | none => return false
  | some (best, extras) =>
    let state ← ask (Automaton.stateAfter node.state (l.production production).owner)
    push w (some best) state
    for extra in extras do
      push w (some extra) state
    mergeIntoAny w ((List.range w).filter (· != v))

/-- Completes a production on the versions that were made for it, of which `removed` have become one
    with others or were too many. -/
def completeOnAll (v production limit : Nat) :
    Nat → List (Nat × List (List Branch)) → ReadM Unit
  | _, [] => return
  | removed, (number, ways) :: rest => do
    let w := number - removed
    if limit < w then
      removeVersion w
      completeOnAll v production limit (removed + 1) rest
    else
      let merged ← completeOn v production w ways
      completeOnAll v production limit (if merged then removed + 1 else removed) rest

/-- Completes a production. Gives the number of the first version that this makes, if it makes one.
    -/
def reduce (v production : Nat) : ReadM (Option Nat) := do
  let l ← language
  let first ← versionCount
  let found ← pop v (l.production production).parts.size
  let halted := ((← getThe Progress).versions.filter (·.isHalted)).size
  completeOnAll v production (maxVersions + versionSlack + halted) 0 found
  return if first < (← versionCount) then some first else none

/-- The branch of a whole source: the extras before and after the source belong to it. -/
def wholeBranch (l : Language) (s : Source) (branches : List Branch) : Option Branch :=
  let isPart (b : Branch) : Bool := !b.isExtra && b.label != .symbol 0
  let after := (branches.reverse.takeWhile (!isPart ·)).reverse
  let upTo := branches.take (branches.length - after.length)
  upTo.getLast?.map fun b =>
    Branch.ofChildren l s b.label b.production? 0 (upTo.dropLast ++ b.children ++ after)

/-- Takes a complete reading if it is better than the best so far. -/
def finish (branches : List Branch) : ReadM Unit := do
  match wholeBranch (← language) (← source) branches with
  | none => return
  | some whole =>
    modifyThe Progress fun p =>
      { p with
        finishedCount := p.finishedCount + 1
        finished? := match p.finished? with
          | some best => if best.isBettered whole then some whole else some best
          | none => some whole }

/-- Takes what a version has read as a complete reading. -/
def accept (v : Nat) (token : Branch) : ReadM Unit := do
  push v (some token) Automaton.startState
  let p ← getThe Progress
  for landing in p.stack.toBottom (p.versions.getD v default).node do
    for branches in landing.ways do
      finish branches
  halt v

end ClassSpacing.Grammar.ReadM
