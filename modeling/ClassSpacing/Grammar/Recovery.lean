import ClassSpacing.Grammar.Reduction

/-!
# Going on after faults

Where no version can take the next token, one of them goes on in two ways. It supposes that a token
is missing, if some token would let it go on; and it stands at a fault, where it skips tokens until
one comes that fits a state further down in its stack. What was read since that state and what was
skipped then fits nowhere.
-/

namespace ClassSpacing.Grammar.ReadM

/-! ## Completing whatever can be completed -/

/-- What the tokens that may come next allow: whether one of them can be taken, and the productions
    that can be completed before one of them. -/
structure Outlook where
  canShift : Bool := false
  reductions : List Nat := []

/-- Takes an action into account. Productions of one symbol and one length count once. -/
def Outlook.add (l : Language) (o : Outlook) : Action → Outlook
  | .shift _ => { o with canShift := true }
  | .reduce production =>
    let p := l.production production
    let isKnown := o.reductions.any fun other =>
      let q := l.production other
      q.owner == p.owner && q.parts.size == p.parts.size
    if p.parts.isEmpty || isKnown then o
    else { o with reductions := o.reductions ++ [production] }
  | _ => o

/-- What some tokens allow in a state. -/
def outlook (state : Nat) (tokens : List Nat) : ReadM Outlook := do
  if state == Automaton.errorState then
    return { canShift := true }
  else
    let l ← language
    let expected ← ask (Automaton.expected state)
    let extras := l.extraSet
    tokens.foldlM (fun o token => do
      if expected.contains token || extras.contains token then
        return (← ask (Automaton.actions state token)).foldl (Outlook.add l) o
      else
        return o) {}

/-- Completes all productions that can be completed before one of some tokens, on the version
    `start` and on those from `first` on that this makes. Gives whether one of the tokens can then
    be taken. If `isStrict`, versions that cannot take one are removed. -/
def completeAll (isStrict : Bool) (tokens : List Nat) (start first : Nat) :
    Nat → Nat → Nat → Bool → ReadM Bool
  | 0, _, _, found => return found
  | fuel + 1, turn, v, found => do
    let count ← versionCount
    if count ≤ v then
      return found
    else if ← mergeIntoAny v ((List.range v).filter (first ≤ ·)) then
      completeAll isStrict tokens start first fuel (turn + 1) v found
    else
      let o ← outlook (← top v).state tokens
      let mut made? : Option Nat := none
      for production in o.reductions do
        made? ← reduce v production
      let next := if v == start then count else v + 1
      if o.canShift then
        completeAll isStrict tokens start first fuel (turn + 1) next true
      else
        match made? with
        | some made =>
          if turn < maxVersions then
            replace made v
            completeAll isStrict tokens start first fuel (turn + 1) v found
          else
            if isStrict then removeVersion v
            completeAll isStrict tokens start first fuel (turn + 1) next found
        | none =>
          if isStrict then removeVersion v
          completeAll isStrict tokens start first fuel (turn + 1) next found

/-- The most turns of completing productions. -/
def maxTurns : Nat := 1000

/-- Completes all productions that can be completed before any token, the end of the source apart.
    -/
def completeBeforeAny (v : Nat) : ReadM Bool := do
  let tokens := (List.range (← language).tokenCount).filter (0 < ·)
  completeAll false tokens v (← versionCount) maxTurns 0 v false

/-- Completes all productions that can be completed before a token, and keeps only versions that can
    then take it. The end of the source is no token that can be taken; before it any other will do.
    -/
def completeBefore (v token : Nat) : ReadM Bool := do
  if token == 0 then
    completeBeforeAny v
  else
    completeAll true [token] v (← versionCount) maxTurns 0 v false

/-! ## Missing tokens -/

/-- Whether a version can go on before a token if another token, which is missing, stood there. If
    so it is a new version. -/
def supposeMissing (v token missing : Nat) : ReadM Bool := do
  let node ← top v
  let state ← ask (Automaton.stateAfter node.state missing)
  if state == Automaton.errorState || state == node.state then
    return false
  else if ← ask (Automaton.reducesOn state token) then
    let x ← version v
    let w ← addVersion { node := x.node, countAtFault := x.countAtFault }
    push w (some (Branch.missing missing node.place)) state
    completeBefore w token
  else
    return false

/-- Tries missing tokens until one lets a version go on. -/
def supposeAny (v token : Nat) : List Nat → ReadM Bool
  | [] => return false
  | missing :: rest => do
    if ← supposeMissing v token missing then return true else supposeAny v token rest

/-- Whether a version can go on after some missing token. -/
def supposeSome (v : Nat) (next : Branch) : ReadM Bool := do
  match next.symbol? with
  | none => return false
  | some token =>
    let expected ← ask (Automaton.expected (← top v).state)
    let tokens := (List.range (← language).tokenCount).filter fun n =>
      0 < n && expected.contains n
    supposeAny v token tokens

/-! ## Skipping -/

/-- Takes the branches of one way down off the stack as text that fits nowhere. -/
def wrapError (w state : Nat) (branches : List Branch) : ReadM Unit := do
  let p ← getThe Progress
  let mut branches := branches
  match p.stack.pastError? (p.versions.getD w default).node with
  | some landing =>
    modifyVersion w fun x => { x with node := landing.node, status := .active }
    branches := ((landing.ways.head?.bind (·.head?)).map (·.children)).getD [] ++ branches
  | none => pure ()
  let (parts, extras) := Branch.splitExtras branches
  if !parts.isEmpty then
    let error := Branch.ofChildren (← language) (← source) .error none 0 parts
    push w (some { error with isExtra := true }) state
  for extra in extras do
    push w (some extra) state

/-- Goes back to a state below the top. What was read since then fits nowhere. -/
def goBack (v depth state : Nat) : ReadM Bool := do
  let found ← pop v depth
  let mut done := false
  for (w, ways) in found do
    if (← top w).state == state then
      match ways with
      | way :: _ =>
        wrapError w state way
        done := true
      | [] => pure ()
    else
      halt w
  return done

/-- Goes back to the first landmark at which a token fits, unless something better is known.
    Versions from `limit` on are new. -/
def goBackToAny (v limit place cost count : Nat) (token : Nat) :
    List Stack.Landmark → ReadM Bool
  | [] => return false
  | mark :: rest => do
    let p ← getThe Progress
    let isThere := (p.versions.toList.take limit).any fun x =>
      let node := p.stack.node x.node
      node.state == mark.state && node.place == place
    if mark.state == Automaton.errorState || mark.place == place || isThere then
      goBackToAny v limit place cost count token rest
    else
      let s ← source
      let newCost := cost + mark.depth * skippedNodeCost + s.costBetween mark.place place
      if ← isOutdone v newCost then
        return false
      else if (← ask (Automaton.actions mark.state token)).isEmpty then
        goBackToAny v limit place cost count token rest
      else
        let depth := if 0 < count then mark.depth + 1 else mark.depth
        if ← goBack v depth mark.state then return true
        else goBackToAny v limit place cost count token rest

/-- Removes the versions from a number on that are not followed. -/
def removeInactive (limit : Nat) : ReadM Unit :=
  modifyThe Progress fun p =>
    { p with
      versions := (p.versions.toList.zipIdx.filterMap fun (x, n) =>
        if n < limit || x.isActive then some x else none).toArray }

/-- Skips a token. Tokens that were skipped right before belong to the same text. -/
def skipToken (v count : Nat) (token : Branch) : ReadM Unit := do
  let l ← language
  let s ← source
  let skipped := Branch.ofChildren l s .skipped none 0 [token]
  if 0 < count then
    match ← pop v 1 with
    | [] => push v (some skipped) Automaton.errorState
    | (w, ways) :: others =>
      for _ in others do
        removeVersion (w + 1)
      replace w v
      let grown := Branch.ofChildren l s .skipped none 0 (ways.headD [] ++ [skipped])
      push v (some grown) Automaton.errorState
  else
    push v (some skipped) Automaton.errorState

/-- Goes on at a fault: back to a landmark, over the token, or to the end. -/
def recover (v : Nat) (token : Branch) : ReadM Unit := do
  let s ← source
  let limit ← versionCount
  let place := (← top v).place
  let count ← countSinceFault v
  let cost ← faultCost v
  let mut wentBack := false
  match token.symbol?, (← version v).landmarks? with
  | some symbol, some marks => wentBack ← goBackToAny v limit place cost count symbol marks
  | _, _ => pure ()
  removeInactive limit
  if token.label == .symbol 0 then
    let rest := Branch.ofChildren (← language) s .error none place []
    push v (some rest) Automaton.startState
    accept v token
  else if wentBack && maxVersions < (← versionCount) then
    halt v
  else if ← isOutdone v (cost + skippedNodeCost + s.costBetween token.before token.stop) then
    halt v
  else
    skipToken v count token

/-- Marks the fault of a version and of those that were made from it, after trying missing tokens on
    each of them until one is found. -/
def markFaults (token : Branch) : Bool → List Nat → ReadM Unit
  | _, [] => return
  | supposed, v :: rest => do
    let supposed ← if supposed then pure true else supposeSome v token
    push v none Automaton.errorState
    markFaults token supposed rest

/-- Goes on with a version that waits at a token that does not fit. -/
def handleFault (v : Nat) (token : Branch) : ReadM Unit := do
  let first ← versionCount
  let _ ← completeBeforeAny v
  let last ← versionCount
  markFaults token false (v :: (List.range last).filter (first ≤ ·))
  for _ in [first:last] do
    let _ ← merge v first
  let p ← getThe Progress
  let marks := p.stack.landmarks (p.versions.getD v default).node
  modifyVersion v fun x => { x with landmarks? := some marks }
  recover v token

end ClassSpacing.Grammar.ReadM
