import ClassSpacing.Json.Writer
import ClassSpacing.Path
import ClassSpacing.Report.Paint
import ClassSpacing.Report.Summary

/-!
# Reports

The complaints about a file are reported as lines for people, each with the place, the severity and
the message, or as data: a list with one object for each complaint.
-/

namespace ClassSpacing.Report

/-! ## Lines -/

/-- The style of a severity. -/
def severityStyle : Severity → Style
  | .error => .boldColour .red
  | .warning => .boldColour .yellow

/-- One complaint, with its line and column counted from one. -/
def diagnosticLine (palette : Palette) (path : Path) (d : Diagnostic) : String :=
  let place := s!"{path.text}:{d.start.line + 1}:{d.start.character + 1}:"
  let severity := palette.paint (severityStyle d.severity) d.severity.name
  let rule := palette.paint .dimmed s!"[{ruleName}]"
  s!"{palette.paint .bold place} {severity}: {d.message} {rule}\n"

/-- The complaints about a file, a line each. -/
def text (palette : Palette) (path : Path) (diagnostics : List Diagnostic) : String :=
  String.join (diagnostics.map (diagnosticLine palette path))

/-! ## Data -/

/-- A place as data. -/
def positionValue (p : Position) : Value :=
  .table [("line", .integer p.line), ("character", .integer p.character),
    ("position", .integer p.offset)]

/-- A fix as data. -/
def fixValue (f : Fix) : Value :=
  .table [("innerStart", .integer f.offset), ("innerLength", .integer f.length),
    ("innerText", .string (String.ofList f.replacement))]

/-- The name of a severity in data. -/
def severityLabel : Severity → String
  | .error => "ERROR"
  | .warning => "WARNING"

/-- A complaint as data. There is an entry for the fix if there is a fix. -/
def diagnosticValue (path : Path) (d : Diagnostic) : Value :=
  .table <|
    [("name", .string path.text), ("failure", .string d.message), ("ruleName", .string ruleName),
      ("ruleSeverity", .string (severityLabel d.severity)),
      ("startPosition", positionValue d.start), ("endPosition", positionValue d.stop)] ++
    (d.fix?.map fun f => ("fix", fixValue f)).toList

/-- The complaints about some files as data, file by file. -/
def value (files : List (Path × List Diagnostic)) : Value :=
  .list (files.flatMap fun (path, diagnostics) => diagnostics.map (diagnosticValue path))

/-- The complaints about some files as a JSON text. -/
def json (files : List (Path × List Diagnostic)) : Text :=
  Json.pretty (value files)

end ClassSpacing.Report
