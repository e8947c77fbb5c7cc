import Std.Data.HashMap
import Std.Data.HashSet
import ClassSpacing.Grammar.Rule
import ClassSpacing.Grammar.TokenSet

/-!
# Languages

A language is a set of rules made ready for reading. Its symbols are numbered, tokens first, and
each symbol that is not a token has productions: sequences of symbols, in which no choice, no
repetition and no inlined symbol is left. A repetition is a symbol of its own, made of two of itself
or of what it repeats; equal repetitions are one symbol.
-/

namespace ClassSpacing.Grammar

/-- A symbol of the rules. -/
inductive Symbol where
  | token (t : Token)
  | defined (name : String)
  /-- The repetition with a number. -/
  | repetition (n : Nat)
deriving BEq, Hashable, Inhabited

/-- A symbol at its place in a production. -/
structure Part (σ : Type) where
  symbol : σ
  /-- The name that its node has here instead of its own. -/
  shownAs? : Option String := none
  /-- Whether it is the name of the construct. -/
  isName : Bool := false
deriving BEq, Hashable, Inhabited

namespace Part

/-- A part with a name for its node, unless it has one. -/
def showAs {σ : Type} (name : String) (p : Part σ) : Part σ :=
  { p with shownAs? := p.shownAs? <|> some name }

/-- A part that stands where another one was: what is said of the other holds of it. -/
def inPlaceOf {σ : Type} (outer p : Part σ) : Part σ :=
  { p with shownAs? := outer.shownAs? <|> p.shownAs?, isName := outer.isName || p.isName }

end Part

/-- The sequences of symbols that a rule allows. -/
abbrev Ways := List (List (Part Symbol))

/-- One of these, and then one of those. -/
def Ways.followedBy (first second : Ways) : Ways :=
  first.flatMap fun way => second.map (way ++ ·)

/-- A list without what stands earlier in it. -/
def distinct {α : Type} [BEq α] [Hashable α] (xs : List α) : List α :=
  (xs.foldl (fun (seen, kept) x =>
      if seen.contains x then (seen, kept) else (seen.insert x, kept.push x))
    ((∅, #[]) : Std.HashSet α × Array α)).2.toList

/-! ## Rules as sequences -/

/-- The symbol of a repetition, by what it repeats. -/
def repetition (ways : Ways) : StateM (Array Ways) Ways :=
  modifyGet fun known =>
    match known.findIdx? (· == ways) with
    | some n => ([[{ symbol := .repetition n }]], known)
    | none => ([[{ symbol := .repetition known.size }]], known.push ways)

mutual

/-- The sequences that a rule allows. The repetitions met on the way are collected. -/
def Rule.expand : Rule → StateM (Array Ways) Ways
  | .empty => pure [[]]
  | .token t => pure [[{ symbol := .token t }]]
  | .symbol name => pure [[{ symbol := .defined name }]]
  | .seq rules => expandSeq rules
  | .oneOf rules => expandAny rules
  | .repeated rule => do repetition (← rule.expand)
  | .shownAs name rule => do return (← rule.expand).map (·.map (·.showAs name))
  | .asName rule => do return (← rule.expand).map (·.map ({ · with isName := true }))

/-- The sequences that rules allow one after the other. -/
def expandSeq : List Rule → StateM (Array Ways) Ways
  | [] => pure [[]]
  | rule :: rest => do
    let first ← rule.expand
    let second ← expandSeq rest
    return first.followedBy second

/-- The sequences that one of some rules allows. -/
def expandAny : List Rule → StateM (Array Ways) Ways
  | [] => pure []
  | rule :: rest => do
    let first ← rule.expand
    let others ← expandAny rest
    return first ++ others

end

mutual

/-- The symbols of a rule, in its order. -/
def Rule.mentions : Rule → List Symbol
  | .empty => []
  | .token t => [.token t]
  | .symbol name => [.defined name]
  | .seq rules => mentionsOfAll rules
  | .oneOf rules => mentionsOfAll rules
  | .repeated rule => rule.mentions
  | .shownAs _ rule => rule.mentions
  | .asName rule => rule.mentions

/-- The symbols of some rules, in their order. -/
def mentionsOfAll : List Rule → List Symbol
  | [] => []
  | rule :: rest => rule.mentions ++ mentionsOfAll rest

end

/-- The symbols of a definition, in its order. -/
def Definition.mentions (d : Definition) : List Symbol :=
  d.alternatives.flatMap (·.rule.mentions)

/-! ## What a source can hold -/

namespace Rules

/-- The definitions of the rules. -/
def definitions (r : Rules) : List Definition :=
  r.entries.filterMap fun
    | .definition d => some d
    | .token _ => none

/-- Adds to the symbols that are known to be used those that the waiting ones lead to. -/
def usedFrom (mentions : Std.HashMap String (List Symbol)) :
    Nat → List Symbol → Std.HashSet Symbol → Std.HashSet Symbol
  | 0, _, used => used
  | _, [], used => used
  | fuel + 1, symbol :: rest, used =>
    if used.contains symbol then
      usedFrom mentions fuel rest used
    else
      match symbol with
      | .defined name =>
        usedFrom mentions fuel (mentions.getD name [] ++ rest) (used.insert symbol)
      | _ => usedFrom mentions fuel rest (used.insert symbol)

/-- The symbols that a source can hold. -/
def used (r : Rules) : Std.HashSet Symbol :=
  let mentions := r.definitions.map fun d => (d.name, d.mentions)
  let total := mentions.foldl (fun n m => n + m.2.length + 1) 1
  usedFrom (.ofList mentions) total [.defined r.start] (.ofList (Token.extras.map .token))

/-- The tokens of the rules, in the order of their numbers. A token that has an entry stands at that
    place, any other where the rules first mention it; those that no word stands for come last. -/
def tokens (r : Rules) : List Token :=
  let used := r.used
  let placed := r.entries.filterMap fun
    | .token t => some t
    | .definition _ => none
  let written := r.entries.flatMap fun
    | .token t => if used.contains (.token t) then [t] else []
    | .definition d =>
      if used.contains (.defined d.name) then
        d.mentions.filterMap fun
          | .token t => if placed.contains t || Token.unwritten.contains t then none else some t
          | _ => none
      else
        []
  distinct (.endOfSource :: .identifier :: written ++ Token.unwritten)

end Rules

/-! ## Productions -/

/-- One of the sequences that a symbol may be, with the standing of its alternative. -/
structure Sequence where
  parts : List (Part Symbol)
  rank : Rank := .unranked
  side? : Option Side := none
  weight : Int := 0
deriving BEq, Hashable, Inhabited

/-- The sequences of a definition. The repetitions met on the way are collected. -/
def Definition.sequences (d : Definition) : StateM (Array Ways) (List Sequence) := do
  let found ← d.alternatives.mapM fun a => do
    let ways ← a.rule.expand
    return ways.map fun parts =>
      { parts, rank := a.rank, side? := a.side?, weight := a.weight : Sequence }
  return found.flatten

/-- A definition with its sequences. -/
def Definition.withSequences (d : Definition) :
    StateM (Array Ways) (Definition × List Sequence) :=
  return (d, ← d.sequences)

/-- The sequences of a repetition: two of itself, or what it repeats. -/
def repetitionSequences (n : Nat) (ways : Ways) : List Sequence :=
  [[{ symbol := .repetition n }, { symbol := .repetition n }]].append ways |>.map ({ parts := · })

/-- Puts for each inlined symbol of a sequence what it stands for. -/
def withoutInlined (inlined : Std.HashMap String Ways) : Nat → List (Part Symbol) → Ways
  | 0, parts => [parts]
  | fuel + 1, parts =>
    parts.foldr (fun part rest =>
      let ways : Ways :=
        match part.symbol with
        | .defined name =>
          match inlined[name]? with
          | some ways => ways.flatMap fun way =>
              withoutInlined inlined fuel (way.map part.inPlaceOf)
          | none => [[part]]
        | _ => [[part]]
      ways.followedBy rest) [[]]

/-- A sequence of symbols that a symbol may be. -/
structure Production where
  owner : Nat
  parts : Array (Part Nat)
  rank : Rank := .unranked
  side? : Option Side := none
  weight : Int := 0
deriving Inhabited

/-- A way in which one symbol can start with another. -/
structure Beginning where
  symbol : Nat
  /-- The tokens that can follow the other symbol inside the one. -/
  inner : TokenSet := ∅
  /-- Whether the other symbol can be all of the one. -/
  isWhole : Bool := false
deriving Inhabited

/-- What an order of precedence lists: a level, or a symbol by its number. -/
inductive Mark where
  | level (name : String)
  | symbol (number : Nat)
deriving BEq, Inhabited

/-- A language. Tokens have the first numbers, repetitions the last ones. -/
structure Language where
  tokens : Array Token
  /-- How the symbols stand in a tree, by number. -/
  appearances : Array Appearance
  /-- The number of the first repetition. -/
  firstRepetition : Nat
  productions : Array Production
  /-- The production that a whole source is. -/
  source : Nat
  orders : List (List Mark)
  /-- The tokens that a symbol can start with, by symbol. -/
  starters : Array TokenSet
  /-- The productions that start with a symbol, in the order of their owners. -/
  startingWith : Array (Array Nat)
  /-- The symbols that a symbol can start with, itself among them. -/
  beginnings : Array (Array Beginning)
  /-- The productions without symbols. -/
  empties : Array Nat
  /-- The numbers of the tokens. -/
  numbers : Std.HashMap Token Nat
deriving Inhabited

namespace Language

/-! ### Building a language -/

/-- The tokens that the symbols can start with, from some that are known. Each round looks at all
    productions. -/
def closeStarters (productions : Array Production) : Nat → Array TokenSet → Array TokenSet
  | 0, sets => sets
  | fuel + 1, sets =>
    let (sets, changed) := productions.foldl (fun (sets, changed) p =>
      match p.parts[0]? with
      | some part =>
        let old := sets.getD p.owner ∅
        let new := old ∪ sets.getD part.symbol ∅
        if new == old then (sets, changed) else (sets.setIfInBounds p.owner new, true)
      | none => (sets, changed)) (sets, false)
    if changed then closeStarters productions fuel sets else sets

/-- Two ways in which a symbol begins, as one. -/
def joinBeginning (b : Beginning) : List Beginning → List Beginning
  | [] => [b]
  | c :: rest =>
    if c.symbol == b.symbol then
      { c with inner := c.inner ∪ b.inner, isWhole := c.isWhole || b.isWhole } :: rest
    else
      c :: joinBeginning b rest

/-- The ways in which each symbol begins by one of its productions. -/
def directBeginnings (tokenCount symbolCount : Nat) (productions : Array Production)
    (starters : Array TokenSet) : Array (List Beginning) :=
  productions.foldl (fun found p =>
    match p.parts[0]? with
    | some part =>
      if part.symbol < tokenCount then
        found
      else
        let b : Beginning :=
          match p.parts[1]? with
          | some next => { symbol := part.symbol, inner := starters.getD next.symbol ∅ }
          | none => { symbol := part.symbol, isWhole := true }
        found.modify p.owner (joinBeginning b)
    | none => found) (Array.replicate symbolCount [])

/-- The ways in which a symbol begins: `known` are those found so far, by symbol, and the waiting
    symbols are those for which a way has been found whose own beginnings are still to be looked
    at. -/
def closeBeginnings (direct : Array (List Beginning)) :
    Nat → List Nat → Array (Option Beginning) → Array (Option Beginning)
  | 0, _, known => known
  | _, [], known => known
  | fuel + 1, symbol :: waiting, known =>
    match (known[symbol]?).join with
    | none => closeBeginnings direct fuel waiting known
    | some here =>
      let (waiting, known) := (direct.getD symbol []).foldl (fun (waiting, known) b =>
        let found : Beginning :=
          { symbol := b.symbol, isWhole := b.isWhole && here.isWhole
            inner := if b.isWhole then b.inner ∪ here.inner else b.inner }
        match (known[b.symbol]?).join with
        | none => (b.symbol :: waiting, known.setIfInBounds b.symbol (some found))
        | some old =>
          let inner := old.inner ∪ found.inner
          let isWhole := old.isWhole || found.isWhole
          if inner == old.inner && isWhole == old.isWhole then
            (waiting, known)
          else
            (b.symbol :: waiting,
              known.setIfInBounds b.symbol (some { symbol := b.symbol, inner, isWhole })))
        (waiting, known)
      closeBeginnings direct fuel waiting known

/-- All ways in which a symbol begins. -/
def allBeginnings (tokenCount : Nat) (direct : Array (List Beginning)) (symbol : Nat) :
    Array Beginning :=
  let edges := direct.foldl (fun n bs => n + bs.length) 0
  let known := (Array.replicate direct.size none).setIfInBounds symbol
    (some { symbol, isWhole := true })
  (closeBeginnings direct ((edges + 1) * (tokenCount + 2)) [symbol] known).filterMap id

/-- The numbers of the productions that start with each symbol. -/
def starts (symbolCount : Nat) (productions : Array Production) : Array (Array Nat) :=
  let before (i j : Nat) : Bool :=
    let p := productions.getD i default
    let q := productions.getD j default
    let order := (compare p.owner q.owner).then <| (compare p.weight q.weight).then <|
      (compare p.parts.size q.parts.size).then (compare i j)
    order != .gt
  let found := productions.foldl (fun (found, i) p =>
    match p.parts[0]? with
    | some part => (found.modify part.symbol (·.push i), i + 1)
    | none => (found, i + 1)) ((Array.replicate symbolCount #[], 0) : Array (Array Nat) × Nat)
  found.1.map fun numbers => (numbers.toList.mergeSort before).toArray

/-- How a symbol stands in a tree. -/
def appearanceOf (shown : Std.HashMap String Definition) : Symbol → Appearance
  | .token t => t.appearance
  | .defined name =>
    match shown[name]? with
    | some d => { name := d.shownName, isShown := d.role == .shown, isNamed := true }
    | none => { name, isShown := false }
  | .repetition _ => { name := "repetition", isShown := false }

/-- The language of some rules. -/
def ofRules (rules : Rules) : Language :=
  let used := rules.used
  let definitions := rules.definitions.filter fun d => used.contains (.defined d.name)
  let tokens := rules.tokens
  let (drafts, repetitions) := (definitions.mapM Definition.withSequences).run #[]
  let inlined : Std.HashMap String Ways := .ofList <| drafts.filterMap fun (d, sequences) =>
    if d.role == .inlined then some (d.name, sequences.map (·.parts)) else none
  let own := drafts.filterMap fun (d, sequences) =>
    if d.role == .inlined then none else some (Symbol.defined d.name, sequences)
  let owners := own ++ repetitions.toList.zipIdx.map fun (ways, n) =>
    (Symbol.repetition n, repetitionSequences n ways)
  -- the numbers of the symbols
  let symbols := tokens.map Symbol.token ++ owners.map (·.1)
  let numbers : Std.HashMap Symbol Nat := .ofList symbols.zipIdx
  let numberOf (symbol : Symbol) : Nat := numbers.getD symbol 0
  -- the productions, the one of a whole source last
  let fuel := definitions.length
  let productions := (owners.flatMap fun (owner, sequences) =>
    (distinct (sequences.flatMap fun s =>
      (withoutInlined inlined fuel s.parts).map ({ s with parts := · }))).map fun s =>
        ({ owner := numberOf owner, rank := s.rank, side? := s.side?, weight := s.weight
           parts := (s.parts.map fun p =>
             { symbol := numberOf p.symbol, shownAs? := p.shownAs?, isName := p.isName }).toArray }
          : Production)).toArray
  let symbolCount := symbols.length
  let tokenCount := tokens.length
  let starters := closeStarters productions symbolCount
    ((Array.range symbolCount).map fun n => if n < tokenCount then .singleton n else ∅)
  let direct := directBeginnings tokenCount symbolCount productions starters
  let markOf : Standing → Option Mark
    | .level name => some (.level name)
    | .symbol name => (numbers[Symbol.defined name]?).map .symbol
  { tokens := tokens.toArray
    appearances :=
      (symbols.map (appearanceOf (.ofList (definitions.map fun d => (d.name, d))))).toArray
    firstRepetition := tokenCount + own.length
    productions := productions.push
      { owner := symbolCount, parts := #[{ symbol := numberOf (.defined rules.start) }] }
    source := productions.size
    orders := rules.orders.map (·.filterMap markOf)
    starters
    startingWith := starts symbolCount productions
    beginnings := (Array.range symbolCount).map fun n =>
      if n < tokenCount then #[] else allBeginnings tokenCount direct n
    empties := ((Array.range productions.size).filter fun n =>
      (productions.getD n default).parts.isEmpty)
    numbers := .ofList (tokens.zipIdx) }

/-! ### Looking things up -/

/-- The number of tokens. -/
def tokenCount (l : Language) : Nat := l.tokens.size

/-- The number of symbols. -/
def symbolCount (l : Language) : Nat := l.appearances.size

/-- A production by its number. -/
def production (l : Language) (n : Nat) : Production := l.productions.getD n default

/-- How a symbol stands in a tree. -/
def appearance (l : Language) (symbol : Nat) : Appearance := l.appearances.getD symbol default

/-- The tokens that a symbol can start with. -/
def startersOf (l : Language) (symbol : Nat) : TokenSet := l.starters.getD symbol ∅

/-- The number of a token. A token that the language lacks has the number of no symbol. -/
def numberOf (l : Language) (t : Token) : Nat := l.numbers.getD t l.symbolCount

/-- Whether a symbol is a repetition. -/
def isRepetition (l : Language) (symbol : Nat) : Bool :=
  l.firstRepetition ≤ symbol && symbol < l.symbolCount

/-! ### Precedence -/

/-- A side of a conflict: the rank of an alternative and the symbols that it belongs to. -/
structure Rival where
  rank : Rank
  owners : List Nat

/-- Whether an order of precedence lists a rival at a mark. -/
def Rival.isAt (r : Rival) : Mark → Bool
  | .level name => r.rank == .level name
  | .symbol number => r.owners.contains number

/-- Which of two rivals an order lists first, if it lists both. The flags tell which have been met.
    -/
def firstListed (l r : Rival) : Bool → Bool → List Mark → Option Ordering
  | _, _, [] => none
  | metL, metR, mark :: rest =>
    if l.isAt mark then
      if metR then some .lt else firstListed l r true metR rest
    else if r.isAt mark then
      if metL then some .gt else firstListed l r metL true rest
    else
      firstListed l r metL metR rest

/-- How strongly a rank without a level binds. -/
def strength? : Rank → Option Int
  | .unranked => some 0
  | .number n => some n
  | .level _ => none

/-- How the ranks of two rivals compare: numbers by their size, levels and symbols by the first
    order that lists both. -/
def compareRivals (language : Language) (l r : Rival) : Ordering :=
  let listed := (language.orders.findSome? (firstListed l r false false)).getD .eq
  match strength? l.rank, strength? r.rank with
  | some m, some n => if m == 0 && n == 0 then listed else compare m n
  | _, _ => listed

end Language

end ClassSpacing.Grammar
