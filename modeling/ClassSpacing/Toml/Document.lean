import ClassSpacing.Value

/-!
# Tables of a TOML document

The lines of a document build up a tree of tables. How a table came about decides what may still be
added to it: one that has its own header must not be named by another header or by dotted keys; one
that only lies on the way to such a table may still get its own header; one that was made by dotted
keys may only grow by more of them, and by headers of tables below it.
-/

namespace ClassSpacing.Toml

/-- How a table came about. -/
inductive Origin where
  /-- By its own header. -/
  | header
  /-- On the way to the table of a header. -/
  | implied
  /-- By dotted keys. -/
  | dotted
deriving Repr, DecidableEq

/-- What stands under a key. -/
inductive Node where
  | value (v : Value)
  | table (origin : Origin) (entries : List (String × Node))
  /-- The tables of repeated headers in double brackets, latest first. -/
  | tables (latest : List (String × Node)) (earlier : List (List (String × Node)))

/-- What stands in a table. -/
abbrev Entries := List (String × Node)

namespace Entries

/-- What stands under a key. -/
def find? (entries : Entries) (key : String) : Option Node :=
  entries.lookup key

/-- The entries with a node under a key, in place of what stood there. -/
def set (entries : Entries) (key : String) (node : Node) : Entries :=
  match entries with
  | [] => [(key, node)]
  | (k, n) :: rest => if k = key then (key, node) :: rest else (k, n) :: set rest key node

/-- Changes the table at the end of a path of headers. Tables that are missing on the way are made.
    -/
def within (change : Entries → Option Entries) : List String → Entries → Option Entries
  | [], entries => change entries
  | key :: path, entries =>
    match entries.find? key with
    | none => do return entries.set key (.table .implied (← within change path []))
    | some (.table origin inner) => do
      return entries.set key (.table origin (← within change path inner))
    | some (.tables latest earlier) => do
      return entries.set key (.tables (← within change path latest) earlier)
    | some (.value _) => none

/-- Gives a table its header. -/
def openTable (key : String) (entries : Entries) : Option Entries :=
  match entries.find? key with
  | none => some (entries.set key (.table .header []))
  | some (.table .implied inner) => some (entries.set key (.table .header inner))
  | some _ => none

/-- Adds one more table under a key. -/
def appendTable (key : String) (entries : Entries) : Option Entries :=
  match entries.find? key with
  | none => some (entries.set key (.tables [] []))
  | some (.tables latest earlier) => some (entries.set key (.tables [] (latest :: earlier)))
  | some _ => none

/-- Adds a value under a dotted key. Tables on the way must not have a header of their own, those in
    a list of tables apart, and the innermost one must be made by dotted keys. -/
def insert (v : Value) : List String → String → Entries → Option Entries
  | [], key, entries =>
    match entries.find? key with
    | none => some (entries.set key (.value v))
    | some _ => none
  | part :: path, key, entries =>
    match entries.find? part with
    | none => do return entries.set part (.table .dotted (← insert v path key []))
    | some (.table origin inner) =>
      if origin = .header || (path.isEmpty && origin ≠ .dotted) then
        none
      else do
        return entries.set part (.table origin (← insert v path key inner))
    | some (.tables latest earlier) =>
      if path.isEmpty then
        none
      else do
        return entries.set part (.tables (← insert v path key latest) earlier)
    | some (.value _) => none

end Entries

mutual

/-- The value that a node stands for. -/
def Node.toValue : Node → Value
  | .value v => v
  | .table _ entries => .table (valuesOf entries)
  | .tables latest earlier => .list (tableValues earlier ++ [.table (valuesOf latest)])

/-- The entries of a table as values. -/
def valuesOf : List (String × Node) → List (String × Value)
  | [] => []
  | (key, node) :: rest => (key, node.toValue) :: valuesOf rest

/-- The tables of a list, latest first, as values in the order of the document. -/
def tableValues : List (List (String × Node)) → List Value
  | [] => []
  | entries :: earlier => tableValues earlier ++ [.table (valuesOf entries)]

end

end ClassSpacing.Toml
