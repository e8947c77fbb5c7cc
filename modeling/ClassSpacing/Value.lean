import ClassSpacing.Number.Shortest

/-!
# Data values

The values that a configuration file can hold, whichever format it is written in, and that a report
in the form of data is made of. A table keeps its entries in the order in which they are written,
and keeps repeated ones.
-/

namespace ClassSpacing

/-- A value of a data document. -/
inductive Value where
  | null
  | boolean (b : Bool)
  | integer (n : Int)
  | float (x : Binary64)
  | string (s : String)
  | list (items : List Value)
  | table (entries : List (String × Value))
deriving Repr, Inhabited

end ClassSpacing
