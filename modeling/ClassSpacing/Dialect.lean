import ClassSpacing.Path

/-!
# Dialects

A source file is TypeScript or TypeScript with JSX; the file's extension tells which. Plain
JavaScript is read as TypeScript with JSX.
-/

namespace ClassSpacing

/-- The language that a source text is written in. -/
inductive Dialect where
  | typeScript
  | tsx
deriving Repr, DecidableEq, Inhabited

namespace Dialect

/-- The dialect of a file, or `none` for a file that is not looked at. -/
def ofPath? (p : Path) : Option Dialect := do
  match ← (← p.extension?).text? with
  | "ts" | "mts" | "cts" => some typeScript
  | "tsx" | "js" | "jsx" | "mjs" | "cjs" => some tsx
  | _ => none

/-- The name of the dialect. -/
def name : Dialect → String
  | typeScript => "TypeScript"
  | tsx => "TSX"

end Dialect

end ClassSpacing
