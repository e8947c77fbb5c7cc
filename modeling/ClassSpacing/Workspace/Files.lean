import ClassSpacing.Config.Load
import ClassSpacing.Fixer
import ClassSpacing.Workspace.Basic

/-!
# Checking, editing and configuring in a workspace

The operations on texts, applied to the files of a workspace: files are checked, edits are applied
to them, and configurations are looked for and loaded.
-/

namespace ClassSpacing

/-! ## Checking -/

/-- A file with the verdicts on its members. -/
structure LintedFile where
  path : Path
  dialect : Dialect
  source : Text
  verdicts : List Verdict
deriving Repr, DecidableEq

/-- The complaints about a file. -/
def LintedFile.diagnostics (f : LintedFile) : List Diagnostic :=
  f.verdicts.filterMap (·.diagnostic?)

/-- Reads and checks a file. There is nothing to check in an empty one. -/
def Workspace.lintFile (ws : Workspace) (read : Reader) (rule : Rule) (path : Path) :
    Except LintError LintedFile := do
  match Dialect.ofPath? path with
  | none => throw (.unsupportedFile path)
  | some dialect =>
    match ws.readText path with
    | .error fault => throw (.unreadable path fault)
    | .ok [] => return { path, dialect, source := [], verdicts := [] }
    | .ok source =>
      let verdicts ← rule.verdictsOn read dialect source
      return { path, dialect, source, verdicts }

/-! ## Editing -/

/-- What an edit of a file came to. -/
inductive EditResult where
  /-- The file was written, with so many new bytes. -/
  | applied (file : Path) (bytesChanged : Nat)
  /-- The new text was already there. -/
  | alreadyApplied (file : Path)
deriving Repr, DecidableEq

namespace Workspace

/-- Applies an edit to its file. A file that needs no change is not written. For one that does, the
    content is written to a temporary file beside it, and this is synced and renamed. None of these
    steps is taken to fail: rights, room and devices are never missing here. -/
def applyEdit (ws : Workspace) (e : Edit) : Except EditError (EditResult × Workspace) :=
  match ws.openFile e.file with
  | .error fault => .error (.store fault)
  | .ok (loc, bytes) =>
    match Utf8.decode bytes with
    | .error fault => .error (.notUtf8 fault)
    | .ok content => do
      match ← e.inspect content with
      | .done => return (.alreadyApplied e.file, ws)
      | .pending =>
        let updated := Edit.splice content e.start e.stop e.newText
        return (.applied e.file e.newText.byteLength, ws.put loc (Utf8.encode updated))

/-- Writes the fixed text of a file that still starts with the text that was checked. -/
def writeFixed (ws : Workspace) (file : Path) (checked fixed : Text) :
    Except LintError (EditResult × Workspace) :=
  match ws.applyEdit (.make file 0 checked.byteLength fixed checked) with
  | .ok result => .ok result
  | .error cause => .error (.edit cause)

/-! ## Configuring -/

/-- The names of configuration files, the preferred one first. -/
def configNames : List RawText :=
  ["member-spacing.toml", "tslint.json"]

/-- The configuration file in a directory. -/
def configIn? (ws : Workspace) (directory : Path) : Option Path :=
  (configNames.map fun name => directory.join ⟨name⟩).find? ws.isFile

/-- The nearest configuration file in a directory or one above it. -/
def discover? (ws : Workspace) (start : Path) : Option Path :=
  start.ancestors.findSome? ws.configIn?

/-- Reads and checks a configuration file. -/
def loadConfig (ws : Workspace) (path : Path) : Except ConfigError Config :=
  match ws.readText path with
  | .error fault => .error (.unreadable path fault)
  | .ok text =>
    match Config.load (.ofPath path) text with
    | .ok config => .ok config
    | .error e => .error (e.inFile path)

end Workspace

end ClassSpacing
