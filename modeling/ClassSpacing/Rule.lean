import ClassSpacing.Diagnostic
import ClassSpacing.Spacing
import ClassSpacing.Text.OpeningBrace
import ClassSpacing.Tree.Faults
import ClassSpacing.Tree.Members

/-!
# The rule

Each constructor and method of a class declaration must have the required number of blank lines
above it. They are counted from the member's *anchor*: the start of the comments that belong to it,
or else of its decorators, or else of the declaration itself. Members that do not start their line,
and the first ones below a class header, are exempt.
-/

namespace ClassSpacing

/-- The rule, with what it requires. -/
structure Rule where
  spacing : Spacing := .atLeastOne
  severity : Severity := .error
deriving Repr, DecidableEq, Inhabited

/-- What the rule found out about one member. -/
inductive Verdict where
  /-- The member's span is not a part of the text. -/
  | misplaced
  /-- Something other than white space stands before the anchor on its line. -/
  | sharesLine (anchor : Nat)
  /-- The anchor is not below the line of the class header. -/
  | onHeaderLine (line : Nat)
  /-- The member is the first one, right below the class header. -/
  | belowHeader (line : Nat)
  /-- The line above only opens a block. -/
  | belowOpeningBrace (line : Nat)
  /-- The spacing above the line was measured. -/
  | measured (line : Nat) (outcome : Outcome) (diagnostic? : Option Diagnostic)
deriving Repr, DecidableEq, Inhabited

/-- The complaint about a member, if there is one. -/
def Verdict.diagnostic? : Verdict → Option Diagnostic
  | measured _ _ d => d
  | _ => none

/-! ## The anchor of a member -/

/-- Whether only white space stands before an offset on its line. -/
def startsLine (source : Text) (table : LineTable) (offset : Nat) : Bool :=
  match table.lineStart? (table.lineOf offset) with
  | some lineStart =>
    match source.slice? lineStart offset with
    | some indent => indent.isBlank
    | none => false
  | none => false

/-- Whether a comment belongs to what starts on the line `below`: no blank line separates the two,
    and the comment starts its line. -/
def attaches (source : Text) (table : LineTable) (below : Nat) (t : Tree) : Bool :=
  t.kind == .comment && below ≤ table.lineOf t.span.stop + 1 && startsLine source table t.span.start

/-- The start of the topmost of the comments that belong to what starts on the line `below`, walking
    up over the siblings above it. -/
def attachedStart (source : Text) (table : LineTable) (below : Nat) : List Tree → Option Nat
  | [] => none
  | t :: rest =>
    if attaches source table below t then
      (attachedStart source table (table.lineOf t.span.start) rest).or (some t.span.start)
    else
      none

/-- The start of the comments that belong to a member. -/
def Member.commentStart? (source : Text) (table : LineTable) (m : Member) : Option Nat :=
  attachedStart source table (table.lineOf m.start) m.aboveHead

/-- Where the blank lines above a member are counted from. -/
def Member.anchor (source : Text) (table : LineTable) (m : Member) : Nat :=
  (m.commentStart? source table).getD m.start

namespace Rule

/-- The rule with the given positional option. -/
def ofOption (option : Option String) (severity : Severity := .error) : Rule :=
  { spacing := .ofOption option, severity }

/-- Whether the line `distance` lines above a line is blank. There is none above the first. -/
def blankAbove (source : Text) (table : LineTable) (line distance : Nat) : Bool :=
  if distance ≤ line then
    match table.lineText? source (line - distance) with
    | some text => text.isBlank
    | none => false
  else
    false

/-- The blank lines above a line, compared with what the rule requires. -/
def outcomeAt (rule : Rule) (source : Text) (table : LineTable) (line : Nat) : Outcome :=
  Id.run (rule.spacing.measure (line + 1) fun distance =>
    pure (blankAbove source table line distance))

/-- The fix for the text `indent ++ text` that ends at `stop` and whose first line is `line`.
    Missing lines are put before it; superfluous ones are replaced together with it. -/
def fixFor? (table : LineTable) (line lineStart stop : Nat) (indent text : Text) :
    Outcome → Option Fix
  | .shortfall missing =>
    some { offset := lineStart, length := stop - lineStart
           replacement := table.newline.repeated missing ++ indent ++ text }
  | .excess extra =>
    if extra ≤ line then
      (table.lineStart? (line - extra)).map fun start =>
        { offset := start, length := stop - start, replacement := indent ++ text }
    else
      none
  | _ => none

/-- The complaint about a member whose spacing is not as required. -/
def diagnosticFor? (rule : Rule) (source : Text) (table : LineTable)
    (line lineStart anchor stop : Nat) (indent : Text) (outcome : Outcome) :
    Option Diagnostic := do
  if outcome.isSatisfied then
    none
  else
    let text ← source.slice? anchor stop
    let fix? := fixFor? table line lineStart stop indent text outcome
    if fix?.isNone && outcome != .invalidOption then
      none
    else
      return {
        severity := rule.severity
        offset := lineStart
        length := stop - lineStart
        message := rule.spacing.message
        fix?
        start := table.position source lineStart
        stop := table.position source stop }

/-- Looks at one member. -/
def examine (rule : Rule) (source : Text) (table : LineTable) (m : Member) : Verdict :=
  let anchor := m.anchor source table
  let line := table.lineOf anchor
  match m.body?, table.lineStart? line with
  | some body, some lineStart =>
    match source.slice? lineStart anchor with
    | none => .misplaced
    | some indent =>
      let headerLine := table.lineOf body.span.start
      if !indent.isBlank then
        .sharesLine anchor
      else if line ≤ headerLine then
        .onHeaderLine line
      else if line - 1 == headerLine && m.isFirst then
        .belowHeader line
      else if (table.lineText? source (line - 1)).any Text.isOpeningBraceLine then
        .belowOpeningBrace line
      else
        let outcome := rule.outcomeAt source table line
        .measured line outcome <|
          rule.diagnosticFor? source table line lineStart anchor m.stop indent outcome
  | _, _ => .misplaced

/-- The verdicts on the members of class declarations, in the order of the source. -/
def verdicts (rule : Rule) (source : Text) (tree : Tree) : List Verdict :=
  let table := LineTable.ofText source
  ((tree.members source).filter (·.container == .classBody)).map (rule.examine source table)

/-- The complaints about a source with the given tree. -/
def check (rule : Rule) (source : Text) (tree : Tree) : List Diagnostic :=
  (rule.verdicts source tree).filterMap (·.diagnostic?)

end Rule

end ClassSpacing
