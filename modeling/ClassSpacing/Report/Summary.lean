import ClassSpacing.Diagnostic

/-!
# Totals

A `Summary` counts the checked files and what was found in them.
-/

namespace ClassSpacing.Report

/-- Totals over some files. -/
structure Summary where
  files : Nat := 0
  errors : Nat := 0
  warnings : Nat := 0
  fixable : Nat := 0
deriving Repr, DecidableEq, Inhabited

namespace Summary

/-- The totals with one more file. -/
def add (s : Summary) (diagnostics : List Diagnostic) : Summary where
  files := s.files + 1
  errors := s.errors + diagnostics.countP (·.severity == .error)
  warnings := s.warnings + diagnostics.countP (·.severity == .warning)
  fixable := s.fixable + diagnostics.countP (·.isFixable)

/-- The totals over some files. -/
def ofFiles (files : List (List Diagnostic)) : Summary :=
  files.foldl add {}

/-- The number of problems. -/
def problems (s : Summary) : Nat :=
  s.errors + s.warnings

/-- Whether there are errors. -/
def hasErrors (s : Summary) : Bool :=
  0 < s.errors

/-- Each diagnostic is an error or a warning. -/
theorem problems_add (s : Summary) (diagnostics : List Diagnostic) :
    (s.add diagnostics).problems = s.problems + diagnostics.length := by
  have split : diagnostics.countP (·.severity == .error) +
      diagnostics.countP (·.severity == .warning) = diagnostics.length := by
    induction diagnostics with
    | nil => rfl
    | cons d ds ih => cases h : d.severity <;> simp [h] <;> omega
  simp only [problems, add]
  omega

/-- The complaints of all files are counted together. -/
theorem ofFiles_eq (files : List (List Diagnostic)) :
    ofFiles files = { ({} : Summary).add files.flatten with files := files.length } := by
  suffices ∀ s : Summary,
      files.foldl add s = { s.add files.flatten with files := s.files + files.length } by
    simpa [ofFiles] using this {}
  induction files with
  | nil => exact fun s => rfl
  | cons diagnostics rest ih =>
    intro s
    rw [List.foldl_cons, ih]
    simp only [add, List.flatten_cons, List.countP_append, List.length_cons, mk.injEq]
    omega

/-- The totals in words. -/
def describe (s : Summary) : String :=
  let noun := if s.files = 1 then "file" else "files"
  if s.errors = 0 && s.warnings = 0 then
    s!"{s.files} {noun} checked, no problems"
  else
    s!"{s.files} {noun} checked: {s.errors} error(s), {s.warnings} warning(s), " ++
      s!"{s.fixable} fixable with `fix`"

end Summary

end ClassSpacing.Report
