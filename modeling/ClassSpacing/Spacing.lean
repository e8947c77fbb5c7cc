import ClassSpacing.Text.Decimal

/-!
# Required spacing

A `Spacing` says how many blank lines must stand above a member. `Spacing.measure` walks up from the
member's first line, counts the blank lines directly above it, and tells how far the count is from
the requirement.
-/

namespace ClassSpacing

/-- The number of blank lines that must stand above each member. -/
inductive Spacing where
  /-- No option was given: one blank line or more. -/
  | atLeastOne
  /-- Exactly this many blank lines. -/
  | exactly (lines : Nat)
  /-- The option is not a number of lines. -/
  | invalid (value : String)
deriving Repr, DecidableEq, Inhabited

/-- How the blank lines above a member compare with the requirement. -/
inductive Outcome where
  | satisfied
  /-- So many blank lines have to be inserted. -/
  | shortfall (lines : Nat)
  /-- So many blank lines have to be deleted. -/
  | excess (lines : Nat)
  /-- There is no requirement to compare with. -/
  | invalidOption
deriving Repr, DecidableEq, Inhabited

namespace Outcome

/-- Whether nothing has to change. -/
def isSatisfied (o : Outcome) : Bool :=
  o == satisfied

end Outcome

namespace Spacing

/-- The requirement that the rule's positional option asks for. -/
def ofOption : Option String → Spacing
  | none => atLeastOne
  | some value =>
    match Decimal.parseWord? value with
    | some lines => exactly lines
    | none => invalid value

/-- What a member that breaks the requirement is told. -/
def message : Spacing → String
  | atLeastOne => "must have at least one new line between class methods"
  | exactly lines => s!"must have {lines} new line(s) between class methods"
  | invalid value =>
    s!"invalid value provided for num lines configuration - {value}, see docs for how to configure"

/-- The requirement in a few words. -/
def describe : Spacing → String
  | atLeastOne => "at least 1"
  | exactly lines => s!"exactly {lines}"
  | invalid value => s!"invalid ({value})"

/-! ## Measuring -/

/-- Counts the lines that are blank from `distance` upwards and stops at the first that is not. No
    more than `limit` lines are asked about. -/
def countBlank {m : Type → Type} [Monad m] (blankAbove : Nat → m Bool) : Nat → Nat → m Nat
  | 0, _ => pure 0
  | limit + 1, distance => do
    if ← blankAbove distance then
      return (← countBlank blankAbove limit (distance + 1)) + 1
    else
      return 0

/-- Compares `present` blank lines with the `required` number. -/
def compare (required present : Nat) : Outcome :=
  if present < required then .shortfall (required - present)
  else if required < present then .excess (present - required)
  else .satisfied

/-- Measures the blank lines above a member, where `blankAbove d` tells whether the line `d` lines
    above its first line is blank. The line `limit` lines above must not be blank: it is where the
    walk ends at the latest, such as the line before the first line of the text. -/
def measure {m : Type → Type} [Monad m] (spacing : Spacing) (limit : Nat)
    (blankAbove : Nat → m Bool) : m Outcome :=
  match spacing with
  | invalid _ => return .invalidOption
  | atLeastOne => do
    if ← blankAbove 1 then return .satisfied else return .shortfall 1
  | exactly required => do
    return compare required (← countBlank blankAbove limit 1)

/-- Measures against a list of flags, nearest line first, and also tells which distances were asked
    about, in order. Lines past the end of the list are not blank. -/
def measureFlags (spacing : Spacing) (flags : List Bool) : Outcome × List Nat :=
  let ask (distance : Nat) : StateM (List Nat) Bool := do
    modify (distance :: ·)
    return flags.getD (distance - 1) false
  let (outcome, asked) := (spacing.measure (flags.length + 1) ask).run []
  (outcome, asked.reverse)

end Spacing

end ClassSpacing
