import ClassSpacing.Grammar.Language

/-!
# Automata

A state of an automaton knows which productions the text so far may be in the middle of, and which
tokens may follow each of them. A token leads from a state to actions: to take the token, to
complete a production, or, where ranks and sides leave a conflict open, to several of these, each a
reading of its own. There are very many states and a text needs few of them, so they are made on
demand.
-/

namespace ClassSpacing.Grammar

/-- A production of which the symbols before the dot have been read. -/
structure Item where
  production : Nat
  dot : Nat
  /-- The tokens that may follow the whole production. -/
  followers : TokenSet
deriving BEq, Hashable, Inhabited

/-- What a token leads to. -/
inductive Action where
  /-- The token is taken. -/
  | shift (state : Nat)
  /-- The token could be taken if a repetition were not completed first, which it always is. -/
  | shiftWithin (state : Nat)
  /-- The token may stand anywhere. -/
  | shiftExtra
  /-- The symbols of a production are complete. -/
  | reduce (production : Nat)
  /-- The source is complete. -/
  | accept
deriving BEq, Inhabited

/-- A state: the items that have been started, and what follows from them. -/
structure State where
  kernel : List Item
  /-- The tokens that may follow a symbol that starts here, by symbol. -/
  openings : Thunk (Array TokenSet)
  /-- The tokens that may come next. -/
  expected : Thunk TokenSet

instance : Inhabited State := ⟨{ kernel := [], openings := .pure #[], expected := .pure ∅ }⟩

namespace Language

variable (l : Language)

/-- The symbol after the dot. -/
def next? (item : Item) : Option Nat :=
  (l.production item.production).parts[item.dot]?.map (·.symbol)

/-- Whether all symbols of an item have been read. -/
def isComplete (item : Item) : Bool :=
  item.dot == (l.production item.production).parts.size

/-- The tokens that may follow each symbol that can start where some items stand. -/
def openings (kernel : List Item) : Array TokenSet :=
  kernel.foldl (fun sets item =>
    match l.next? item with
    | none => sets
    | some symbol =>
      let after :=
        match l.next? { item with dot := item.dot + 1 } with
        | some next => l.startersOf next
        | none => item.followers
      (l.beginnings.getD symbol #[]).foldl (fun sets b =>
        sets.modify b.symbol fun s => s ∪ b.inner ∪ (if b.isWhole then after else ∅)) sets)
    (Array.replicate l.symbolCount ∅)

/-- The items without symbols that are complete where they start. -/
def emptyItems (openings : Array TokenSet) : List Item :=
  l.empties.toList.filterMap fun production =>
    let followers := openings.getD (l.production production).owner ∅
    if followers.isEmpty then none else some { production, dot := 0, followers }

/-- The state of some items. -/
def stateOf (kernel : List Item) : State :=
  let openings := Thunk.mk fun _ => l.openings kernel
  { kernel, openings
    expected := Thunk.mk fun _ =>
      (kernel ++ l.emptyItems openings.get).foldl (fun set item =>
        set ∪ match l.next? item with
          | some symbol => l.startersOf symbol
          | none => item.followers) ∅ }

/-- The items after a symbol has been read. -/
def advance (state : State) (symbol : Nat) : List Item :=
  let openings := state.openings.get
  let started := (l.startingWith.getD symbol #[]).toList.filterMap fun production =>
    let followers := openings.getD (l.production production).owner ∅
    if followers.isEmpty then none else some { production, dot := 1, followers : Item }
  started ++ state.kernel.filterMap fun item =>
    if l.next? item == some symbol then some { item with dot := item.dot + 1 } else none

/-! ### Conflicts -/

/-- The productions that may be completed before a token: those of the highest rank. -/
structure Completions where
  actions : List Action := []
  rank : Rank := .unranked
  owners : List Nat := []
  sides : List (Option Side) := []

/-- Takes one more complete item into account. -/
def Completions.add (c : Completions) (item : Item) : Completions :=
  let p := l.production item.production
  let action := if item.production == l.source then .accept else .reduce item.production
  let alone : Completions :=
    { actions := [action], rank := p.rank, owners := [p.owner], sides := [p.side?] }
  if c.actions.isEmpty then
    alone
  else
    match l.compareRivals { rank := p.rank, owners := [p.owner] }
      { rank := c.rank, owners := c.owners } with
    | .gt => alone
    | .lt => c
    | .eq =>
      { actions := c.actions ++ [action], rank := p.rank
        owners := if c.owners.contains p.owner then c.owners else c.owners ++ [p.owner]
        sides := c.sides ++ [p.side?] }

/-- The items that a token continues or completes, those that start here apart. -/
def concerned (kernel : List Item) (token : Nat) : List Item :=
  kernel.filter fun item =>
    item.production != l.source &&
      match l.next? item with
      | some symbol => 0 < item.dot && (l.startersOf symbol).contains token
      | none => item.followers.contains token

/-- What is done where productions can be completed and the token can be taken too. Rank decides;
    among equal ranks the side; if neither does, both are done. -/
def settle (kernel : List Item) (c : Completions) (token next : Nat) : List Action :=
  let items := l.concerned kernel token
  let owners := (items.map fun item => (l.production item.production).owner).eraseDups
  match owners with
  | [owner] =>
    if l.isRepetition owner then c.actions ++ [.shiftWithin next] else bySides items
  | _ => bySides items
where
  /-- Rank and side decide. -/
  bySides (items : List Item) : List Action :=
    let orders := (items.filter (!l.isComplete ·)).map fun item =>
      let p := l.production item.production
      l.compareRivals { rank := p.rank, owners := [p.owner] }
        { rank := c.rank, owners := c.owners }
    match orders.contains .gt, orders.contains .lt with
    | true, false => [.shift next]
    | false, true => c.actions
    | true, true => c.actions ++ [.shift next]
    | false, false =>
      if c.sides.all (· == some .left) then c.actions
      else if c.sides.all (· == some .right) then [.shift next]
      else c.actions ++ [.shift next]

/-- The numbers of the tokens that may stand anywhere. -/
def extras : List Nat := Token.extras.map l.numberOf

/-- The set of the tokens that may stand anywhere. -/
def extraSet : TokenSet := .ofList l.extras

/-- What a token leads to, if taking it leads to the state `next`, or to none if that is zero. -/
def actionsAt (state : State) (token next : Nat) : List Action :=
  let complete := (state.kernel ++ l.emptyItems state.openings.get).filter fun item =>
    l.isComplete item && item.followers.contains token
  let completions := complete.foldl (Completions.add l) {}
  let actions :=
    if next == 0 then completions.actions
    else if completions.actions.isEmpty then [.shift next]
    else l.settle state.kernel completions token next
  if actions.isEmpty && l.extras.contains token then [.shiftExtra] else actions

end Language

/-- An automaton with the states that have been made so far. -/
structure Automaton where
  language : Language
  states : Array State
  numbers : Std.HashMap (List Item) Nat
  /-- Where a symbol leads from a state; zero stands for nowhere. -/
  moves : Std.HashMap Nat Nat := ∅
  /-- What a token leads to in a state. -/
  decisions : Std.HashMap Nat (List Action) := ∅

namespace Automaton

/-- The state in which the text so far fits nothing. -/
def errorState : Nat := 0

/-- The state at the start of a source. -/
def startState : Nat := 1

/-- An automaton before anything has been read. -/
def ofLanguage (l : Language) : Automaton :=
  let kernel : List Item :=
    [{ production := l.source, dot := 0, followers := .singleton (l.numberOf .endOfSource) }]
  { language := l, states := #[default, l.stateOf kernel]
    numbers := (∅ : Std.HashMap (List Item) Nat).insert kernel startState }

/-- A state by its number. -/
def state (a : Automaton) (n : Nat) : State := a.states.getD n default

/-- The number of the state of some items. -/
def numberOf (kernel : List Item) : StateM Automaton Nat := do
  let a ← get
  match a.numbers[kernel]? with
  | some n => return n
  | none =>
    let n := a.states.size
    set { a with
      states := a.states.push (a.language.stateOf kernel)
      numbers := a.numbers.insert kernel n }
    return n

/-- The state after a symbol, or the error state if the symbol does not fit. -/
def move (state symbol : Nat) : StateM Automaton Nat := do
  let a ← get
  let key := state * a.language.symbolCount + symbol
  match a.moves[key]? with
  | some n => return n
  | none =>
    let kernel := a.language.advance (a.state state) symbol
    let n ← if kernel.isEmpty then pure errorState else numberOf kernel
    modify fun a => { a with moves := a.moves.insert key n }
    return n

/-- What a token leads to in a state other than the error state. -/
def actions (state token : Nat) : StateM Automaton (List Action) := do
  let a ← get
  let key := state * a.language.symbolCount + token
  match a.decisions[key]? with
  | some found => return found
  | none =>
    let next ← move state token
    let a ← get
    let found := a.language.actionsAt (a.state state) token next
    modify fun a => { a with decisions := a.decisions.insert key found }
    return found

/-- The tokens that may come next. -/
def expected (state : Nat) : StateM Automaton TokenSet := do
  return ((← get).state state).expected.get

/-- Whether a token completes a production. -/
def reducesOn (state token : Nat) : StateM Automaton Bool := do
  return (← actions state token).any fun
    | .reduce _ => true
    | _ => false

/-- The state that a symbol leads to for certain: a token may have to wait until productions are
    complete. -/
def stateAfter (state symbol : Nat) : StateM Automaton Nat := do
  if state == errorState then
    return errorState
  else if symbol < (← get).language.tokenCount then
    match (← actions state symbol).getLast? with
    | some (.shift next) => return next
    | some (.shiftWithin next) => return next
    | some .shiftExtra => return state
    | _ => return errorState
  else
    move state symbol

end Automaton

end ClassSpacing.Grammar
