import ClassSpacing.Dialect
import ClassSpacing.Grammar.Recovery
import ClassSpacing.Grammar.Script
import ClassSpacing.Tree.Faults

/-!
# Reading

The versions of a reading take turns: each is followed until it has come further than the one
before. Then those that are worse by much are given up, and if all that are left wait at a fault,
the best goes on. The reading ends when it is complete and no version can become better.
-/

namespace ClassSpacing.Grammar

namespace ReadM

/-- The next token of a version. One without characters is only found if something has been read
    since the last fault. -/
def nextToken (v : Nat) : ReadM Branch := do
  let setting ← readThe Setting
  let s := setting.source
  let x ← version v
  let node ← top v
  let p ← getThe Progress
  let advanced := node.cost == 0 || p.stack.hasAdvanced x.countAtFault (p.stack.size + 1) x.node
  let key := (node.state * (s.length + 1) + node.place) * 2 + if advanced then 1 else 0
  match p.lexemes[key]? with
  | some found => return Branch.ofLexeme node.place found
  | none =>
    let found ←
      if node.state == Automaton.errorState then
        pure (s.anyLexeme setting.vocabulary (fun _ => true) node.place)
      else do
        let expected ← ask (Automaton.expected node.state)
        pure (s.nextLexeme setting.vocabulary expected advanced node.place)
    modifyThe Progress fun p => { p with lexemes := p.lexemes.insert key found }
    return Branch.ofLexeme node.place found

/-- What came of the actions for a token. -/
inductive Outcome where
  /-- The version has taken the token, or has ended. -/
  | settled
  /-- Productions were completed. The last one made a version, unless it became one with another. -/
  | reduced (made? : Option Nat)
  /-- There was nothing to do. -/
  | nothing

/-- Does what a token leads to. -/
def perform (v : Nat) (token : Branch) (state : Nat) : Outcome → List Action → ReadM Outcome
  | outcome, [] => return outcome
  | outcome, action :: rest => do
    match action with
    | .shift next =>
      push v (some token) next
      return .settled
    | .shiftWithin _ => perform v token state outcome rest
    | .shiftExtra =>
      push v (some { token with isExtra := true }) state
      return .settled
    | .accept =>
      accept v token
      return .settled
    | .reduce production =>
      let made? ← reduce v production
      let before? := match outcome with
        | .reduced before? => before?
        | _ => none
      perform v token state (.reduced (made? <|> before?)) rest

/-- Follows a version until it has taken a token, has ended or has to wait. A keyword that does not
    fit is tried as an identifier. At a fault only extras are taken. -/
def take (v : Nat) : Nat → Branch → ReadM Unit
  | 0, _ => halt v
  | fuel + 1, token => do
    let state := (← top v).state
    if state == Automaton.errorState then
      if token.symbol?.any (← language).extras.contains then
        push v (some { token with isExtra := true }) state
      else
        recover v token
    else
      let actions ← match token.symbol? with
        | some symbol => ask (Automaton.actions state symbol)
        | none => pure []
      match ← perform v token state .nothing actions with
      | .settled => return
      | .reduced (some made) =>
        replace made v
        take v fuel token
      | .reduced none => halt v
      | .nothing =>
        let identifier := (← readThe Setting).vocabulary.identifier
        let asWord : Branch := { token with label := .symbol identifier }
        let fits ←
          if token.isKeyword && token.label != asWord.label then
            pure !(← ask (Automaton.actions state identifier)).isEmpty
          else
            pure false
        if fits then
          take v fuel asWord
        else
          let count := (← top v).count
          modifyVersion v fun x => { x with status := .paused token, countAtFault := count }

/-- A bound on the number of steps for a source. -/
def stepBound : ReadM Nat := return 100 * ((← source).length + 10)

/-- Follows a version until it is further than `furthest`, or as far if it is not the first. Gives
    how far the furthest version is. -/
def followVersion (v furthest : Nat) : Nat → ReadM Nat
  | 0 => do
    halt v
    return furthest
  | fuel + 1 => do
    if (← version v).isActive then
      take v (← stepBound) (← nextToken v)
      let place := (← top v).place
      if furthest < place || 0 < v && place == furthest then
        return place
      else
        followVersion v furthest fuel
    else
      return furthest

/-- Follows all versions, those that arise meanwhile too. -/
def followAll : Nat → Nat → Nat → ReadM Nat
  | 0, _, furthest => return furthest
  | fuel + 1, v, furthest => do
    if v < (← versionCount) then
      let furthest ← followVersion v furthest (← stepBound)
      followAll fuel (v + 1) furthest
    else
      return furthest

/-! ## Giving up versions -/

/-- Compares a version with the earlier ones from `w` on. Gives its number after versions were given
    up. The merit of the version is that at the start, whatever changes places with it. -/
def compareWithEarlier (merit : Merit) : Nat → Nat → Nat → ReadM Nat
  | 0, v, _ => return v
  | fuel + 1, v, w => do
    if w < v then
      match Merit.compare (← ReadM.merit w) merit with
      | .takeFirst =>
        removeVersion v
        return v - 1
      | .preferFirst | .none =>
        if ← merge w v then return v - 1 else compareWithEarlier merit fuel v (w + 1)
      | .preferSecond =>
        if ← merge w v then
          return v - 1
        else
          modifyThe Progress fun p => { p with versions := p.versions.swapIfInBounds v w }
          compareWithEarlier merit fuel v (w + 1)
      | .takeSecond =>
        removeVersion w
        compareWithEarlier merit fuel (v - 1) w
    else
      return v

/-- Gives up the versions that are worse than others by much. Gives the lowest cost of those that
    are not at a fault. -/
def giveUpWorse : Nat → Nat → Option Nat → ReadM (Option Nat)
  | 0, _, lowest? => return lowest?
  | fuel + 1, v, lowest? => do
    let count ← versionCount
    if v < count then
      if (← version v).isHalted then
        removeVersion v
        giveUpWorse fuel v lowest?
      else
        let merit ← merit v
        let lowest? :=
          if merit.isAtFault then lowest?
          else some (match lowest? with
            | some lowest => min lowest merit.cost
            | none => merit.cost)
        let v ← compareWithEarlier merit count v 0
        giveUpWorse fuel (v + 1) lowest?
    else
      return lowest?

/-- Lets the first version that waits go on, if no version before it goes on by itself, and removes
    the others that wait. -/
def resume : Nat → Nat → Nat → Bool → Option Nat → ReadM (Option Nat)
  | 0, _, _, _, lowest? => return lowest?
  | fuel + 1, v, count, isGoing, lowest? => do
    if v < count then
      match (← version v).status with
      | .paused token =>
        if !isGoing && (← getThe Progress).finishedCount < maxVersions then
          let cost ← faultCost v
          modifyVersion v fun x => { x with status := .active }
          handleFault v token
          resume fuel (v + 1) count true (some cost)
        else
          removeVersion v
          resume fuel v (count - 1) isGoing lowest?
      | _ => resume fuel (v + 1) count true lowest?
    else
      return lowest?

/-- Gives up versions and lets one that waits go on. Gives the lowest cost of those that are left.
    -/
def condense : ReadM (Option Nat) := do
  let lowest? ← giveUpWorse ((← versionCount) + 1) 0 none
  modifyThe Progress fun p => { p with versions := p.versions.take maxVersions }
  let count ← versionCount
  resume (count + 1) 0 count false lowest?

/-- Reads on until there is a complete reading that is better than any that can still come. -/
def readOn : Nat → Nat → ReadM Unit
  | 0, _ => return
  | fuel + 1, furthest => do
    let furthest ← followAll (← stepBound) 0 furthest
    let count ← versionCount
    let lowest? ← condense
    let isDone := (← getThe Progress).finished?.any fun b => lowest?.all (b.cost < ·)
    if isDone || count == 0 then return else readOn fuel furthest

end ReadM

/-! ## Languages of the dialects -/

/-- A language with its vocabulary and an automaton that has read nothing. -/
structure Reading where
  language : Language
  vocabulary : Vocabulary
  automaton : Automaton

/-- What is needed for reading a language. -/
def Reading.ofRules (rules : Rules) : Reading :=
  let language := Language.ofRules rules
  { language, vocabulary := .ofLanguage language, automaton := .ofLanguage language }

/-- For reading TypeScript. -/
def typeScript : Reading := .ofRules (Script.rules .typeScript)

/-- For reading TypeScript with elements. -/
def tsx : Reading := .ofRules (Script.rules .tsx)

/-- For reading a dialect. -/
def readingOf : Dialect → Reading
  | .typeScript => typeScript
  | .tsx => tsx

/-- The best reading of a text. -/
def Reading.read (r : Reading) (t : Text) : Tree :=
  let s := Source.ofText t
  let start : Progress :=
    { stack := #[{ state := Automaton.startState }], versions := #[{ node := 0 }] }
  let bound := 100 * (s.length + 10)
  let setting : Setting := { language := r.language, vocabulary := r.vocabulary, source := s }
  let (_, progress) := ((ReadM.readOn bound 0).run setting |>.run r.automaton).run start
  match progress.finished? with
  | some b => b.toTree r.language s
  | none => Tree.ofChildren .program ⟨0, s.offset s.length⟩ []

/-- Reads a source. -/
def read : Reader := fun dialect source => (readingOf dialect).read source

end ClassSpacing.Grammar
