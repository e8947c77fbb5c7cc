import ClassSpacing.Text.LineTable

/-!
# Diagnostics

A diagnostic flags the lines of one member, and carries the replacement that would put its spacing
right, if there is one.
-/

namespace ClassSpacing

/-- The name of the rule that this library checks. -/
def ruleName : String := "lines-between-class-members"

/-- How much a diagnostic matters. -/
inductive Severity where
  | error
  | warning
deriving Repr, DecidableEq, Inhabited

/-- The word for a severity. -/
def Severity.name : Severity → String
  | error => "error"
  | warning => "warning"

/-- The replacement of `length` bytes at `offset`. -/
structure Fix where
  offset : Nat
  length : Nat
  replacement : Text
deriving Repr, DecidableEq, Inhabited

namespace Fix

/-- Where the replaced bytes end. Offsets are words of 64 bits, and their sum is taken to be one:
    fixes that end past the last word are left out here. They end outside every text. -/
def stop (f : Fix) : Nat := f.offset + f.length

/-- Whether each of two fixes starts before the other ends. -/
def overlaps (f g : Fix) : Bool :=
  f.offset < g.stop && g.offset < f.stop

theorem overlaps_comm (f g : Fix) : f.overlaps g = g.overlaps f :=
  Bool.and_comm _ _

end Fix

/-- One member whose spacing is not as required. -/
structure Diagnostic where
  severity : Severity
  /-- The start of the member's first line. -/
  offset : Nat
  length : Nat
  message : String
  fix? : Option Fix
  start : Position
  stop : Position
deriving Repr, DecidableEq, Inhabited

namespace Diagnostic

/-- The flagged text. -/
def snippet? (d : Diagnostic) (source : Text) : Option Text :=
  source.slice? d.offset (d.offset + d.length)

/-- Whether there is a fix. -/
def isFixable (d : Diagnostic) : Bool :=
  d.fix?.isSome

end Diagnostic

end ClassSpacing
