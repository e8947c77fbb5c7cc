import ClassSpacing.Rule

/-!
# Strict evaluation

Differences of numbers stop at zero in this library, the lookup of a line start has a default, and a
text can have any size. `Strict` evaluates the rule with differences that must not be negative,
lookups that must succeed, and texts that must have no more bytes than a machine can address. It
stops where one of these is not so; a slice that the text does not have is nothing, as before.
-/

namespace ClassSpacing

/-- Why a strict evaluation stops. -/
inductive Halt where
  /-- A difference would be negative. -/
  | underflow (minuend subtrahend : Nat)
  /-- A list has no item at a place. -/
  | outOfRange (place length : Nat)
  /-- A text would have more bytes than can be addressed. -/
  | capacity (bytes : Nat)
deriving Repr, DecidableEq

namespace Strict

/-! ## Strict operations -/

def sub (a b : Nat) : Except Halt Nat :=
  if b ≤ a then .ok (a - b) else .error (.underflow a b)

def item (xs : List Nat) (place : Nat) : Except Halt Nat :=
  match xs[place]? with
  | some x => .ok x
  | none => .error (.outOfRange place xs.length)

/-- The number of bytes that a text can have at most: the largest signed word of 64 bits. -/
def capacity : Nat :=
  9223372036854775807

/-- Many copies of a text. The copies are not made if there is no room for them. -/
def repeated (t : Text) (count : Nat) : Except Halt Text :=
  if count * t.byteLength ≤ capacity then
    .ok (t.repeated count)
  else
    .error (.capacity (count * t.byteLength))

/-- A text behind another one. -/
def append (s t : Text) : Except Halt Text :=
  if s.byteLength + t.byteLength ≤ capacity then
    .ok (s ++ t)
  else
    .error (.capacity (s.byteLength + t.byteLength))

/-! ## Strict evaluation of the rule -/

def lineOf (table : LineTable) (offset : Nat) : Except Halt Nat :=
  sub (table.starts.countP (· ≤ offset)) 1

def lineText? (table : LineTable) (t : Text) (line : Nat) : Except Halt (Option Text) :=
  match table.lineStart? line with
  | none => return none
  | some start => do
    let stop ← match table.lineStart? (line + 1) with
      | some next => sub next 1
      | none => pure t.byteLength
    return (t.slice? start stop).map (·.dropTrailingReturn)

/-- The place of a byte offset. The number of bytes since the start of the line is worked out in any
    case. -/
def position (table : LineTable) (t : Text) (offset : Nat) : Except Halt Position := do
  let line ← lineOf table offset
  let start ← item table.starts line
  let bytes ← sub offset start
  return { line, offset, character := ((t.slice? start offset).map List.length).getD bytes }

def startsLine (source : Text) (table : LineTable) (offset : Nat) : Except Halt Bool := do
  let line ← lineOf table offset
  return (table.lineStart? line).any fun lineStart =>
    (source.slice? lineStart offset).any Text.isBlank

def attachedStart (source : Text) (table : LineTable) (below : Nat) :
    List Tree → Except Halt (Option Nat)
  | [] => return none
  | t :: rest =>
    if t.kind == .comment then do
      let lastLine ← lineOf table t.span.stop
      if below ≤ lastLine + 1 then
        if ← startsLine source table t.span.start then
          let firstLine ← lineOf table t.span.start
          let start? ← attachedStart source table firstLine rest
          return start?.or (some t.span.start)
        else
          return none
      else
        return none
    else
      return none

def anchor (source : Text) (table : LineTable) (m : Member) : Except Halt Nat := do
  let line ← lineOf table m.start
  let start? ← attachedStart source table line m.aboveHead
  return start?.getD m.start

def blankAbove (source : Text) (table : LineTable) (line distance : Nat) : Except Halt Bool :=
  if distance ≤ line then do
    let above ← sub line distance
    let text? ← lineText? table source above
    return text?.any Text.isBlank
  else
    return false

def compare (required present : Nat) : Except Halt Outcome :=
  if present < required then do
    let missing ← sub required present
    return .shortfall missing
  else if required < present then do
    let extra ← sub present required
    return .excess extra
  else
    return .satisfied

def outcomeAt (rule : Rule) (source : Text) (table : LineTable) (line : Nat) :
    Except Halt Outcome :=
  match rule.spacing with
  | .invalid _ => return .invalidOption
  | .atLeastOne => do
    if ← blankAbove source table line 1 then return .satisfied else return .shortfall 1
  | .exactly required => do
    let present ← Spacing.countBlank (blankAbove source table line) (line + 1) 1
    compare required present

def fixFor? (table : LineTable) (line lineStart stop : Nat) (indent text : Text) :
    Outcome → Except Halt (Option Fix)
  | .shortfall missing => do
    let length ← sub stop lineStart
    let gap ← repeated table.newline missing
    let replacement ← append (← append gap indent) text
    return some { offset := lineStart, length, replacement }
  | .excess extra =>
    if extra ≤ line then do
      let first ← sub line extra
      match table.lineStart? first with
      | some start => do
        let length ← sub stop start
        let replacement ← append indent text
        return some { offset := start, length, replacement }
      | none => return none
    else
      return none
  | _ => return none

def diagnosticFor? (rule : Rule) (source : Text) (table : LineTable)
    (line lineStart anchor stop : Nat) (indent : Text) (outcome : Outcome) :
    Except Halt (Option Diagnostic) :=
  if outcome.isSatisfied then
    return none
  else
    match source.slice? anchor stop with
    | none => return none
    | some text => do
      let fix? ← fixFor? table line lineStart stop indent text outcome
      if fix?.isNone && outcome != .invalidOption then
        return none
      else
        let length ← sub stop lineStart
        let start ← position table source lineStart
        let stop ← position table source stop
        return some {
          severity := rule.severity, offset := lineStart, length
          message := rule.spacing.message, fix?, start, stop }

def examine (rule : Rule) (source : Text) (table : LineTable) (m : Member) :
    Except Halt Verdict := do
  let anchor ← anchor source table m
  let line ← lineOf table anchor
  match m.body?, table.lineStart? line with
  | some body, some lineStart =>
    match source.slice? lineStart anchor with
    | none => return .misplaced
    | some indent =>
      if !indent.isBlank then
        return .sharesLine anchor
      else
        let headerLine ← lineOf table body.span.start
        if line ≤ headerLine then
          return .onHeaderLine line
        else
          let above ← sub line 1
          if above == headerLine && m.isFirst then
            return .belowHeader line
          else
            let text? ← lineText? table source above
            if text?.any Text.isOpeningBraceLine then
              return .belowOpeningBrace line
            else
              let outcome ← outcomeAt rule source table line
              let diagnostic? ←
                diagnosticFor? rule source table line lineStart anchor m.stop indent outcome
              return .measured line outcome diagnostic?
  | _, _ => return .misplaced

def check (rule : Rule) (source : Text) (tree : Tree) : Except Halt (List Diagnostic) := do
  let table := LineTable.ofText source
  let members := (tree.members source).filter (·.container == .classBody)
  let verdicts ← members.mapM (examine rule source table)
  return verdicts.filterMap (·.diagnostic?)

end Strict

end ClassSpacing
