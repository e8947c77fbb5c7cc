import ClassSpacing.Proofs.Json.Pretty
import ClassSpacing.Proofs.Text.RawText
import ClassSpacing.Report.Render

/-!
# Reading reports

A report in the form of data is for other programs. A `Failure` is what such a program finds in an
object of the report when it looks up its keys. `parse_json` says that nothing is lost on the way:
the text parses, as the objects of all complaints in order, and each of them gives back what the
complaint says, whatever characters its texts are made of. The totals are counted independently, and
agree.
-/

namespace ClassSpacing

/-! ## Numbers of 64 bits -/

/-- The numbers of a place are words. -/
structure Position.FitsWords (p : Position) : Prop where
  line : p.line < Decimal.wordBound
  character : p.character < Decimal.wordBound
  offset : p.offset < Decimal.wordBound

/-- The numbers of a fix are words. -/
structure Fix.FitsWords (f : Fix) : Prop where
  offset : f.offset < Decimal.wordBound
  length : f.length < Decimal.wordBound

/-- The numbers that are reported of a complaint are words. -/
structure Diagnostic.FitsWords (d : Diagnostic) : Prop where
  start : d.start.FitsWords
  stop : d.stop.FitsWords
  fix : ∀ f ∈ d.fix?, f.FitsWords

namespace Report

/-! ## What a reader finds -/

/-- The value under a key of an object. -/
def field? (key : String) : Value → Option Value
  | .table entries => entries.lookup key
  | _ => none

/-- The string that a value is. -/
def string? : Value → Option String
  | .string s => some s
  | _ => none

/-- The number that a value is. -/
def natural? : Value → Option Nat
  | .integer n => n.toNat?
  | _ => none

/-- The severity that a value names. -/
def severity? : Value → Option Severity
  | .string "ERROR" => some .error
  | .string "WARNING" => some .warning
  | _ => none

/-- The place that a value is. -/
def position? (v : Value) : Option Position := do
  let line ← natural? (← field? "line" v)
  let character ← natural? (← field? "character" v)
  let offset ← natural? (← field? "position" v)
  return { line, character, offset }

/-- The fix that a value is. -/
def fix? (v : Value) : Option Fix := do
  let offset ← natural? (← field? "innerStart" v)
  let length ← natural? (← field? "innerLength" v)
  let replacement ← string? (← field? "innerText" v)
  return { offset, length, replacement := replacement.toList }

/-- A complaint in a report. -/
structure Failure where
  name : String
  failure : String
  ruleName : String
  severity : Severity
  start : Position
  stop : Position
  fix? : Option Fix
deriving Repr, DecidableEq

/-- Whether an object has an entry for a fix. -/
def hasFix (v : Value) : Bool :=
  (field? "fix" v).isSome

/-- The complaint that a value is. The entry for a fix may be missing. -/
def failure? (v : Value) : Option Failure := do
  let name ← string? (← field? "name" v)
  let failure ← string? (← field? "failure" v)
  let ruleName ← string? (← field? "ruleName" v)
  let severity ← severity? (← field? "ruleSeverity" v)
  let start ← position? (← field? "startPosition" v)
  let stop ← position? (← field? "endPosition" v)
  let fix? ← match field? "fix" v with
    | none => some none
    | some f => some <$> Report.fix? f
  return { name, failure, ruleName, severity, start, stop, fix? }

/-- What a report says about a complaint. -/
def Failure.of (path : Path) (d : Diagnostic) : Failure where
  name := path.text
  failure := d.message
  ruleName := ClassSpacing.ruleName
  severity := d.severity
  start := d.start
  stop := d.stop
  fix? := d.fix?

theorem natural?_integer (n : Nat) : natural? (.integer n) = some n :=
  rfl

theorem position?_positionValue (p : Position) : position? (positionValue p) = some p :=
  rfl

theorem fix?_fixValue (f : Fix) : fix? (fixValue f) = some f := by
  simp [fix?, fixValue, field?, natural?_integer, string?, List.lookup_cons]

theorem severity?_severityLabel (s : Severity) :
    severity? (.string (severityLabel s)) = some s := by
  cases s <;> rfl

/-- The entry for a fix is there exactly if there is a fix. -/
theorem hasFix_diagnosticValue (path : Path) (d : Diagnostic) :
    hasFix (diagnosticValue path d) = d.isFixable := by
  unfold Diagnostic.isFixable
  cases hfix : d.fix? with
  | none => simp [hasFix, field?, diagnosticValue, hfix, List.lookup_cons, List.lookup_nil]
  | some f => simp [hasFix, field?, diagnosticValue, hfix, List.lookup_cons]

theorem failure?_diagnosticValue (path : Path) (d : Diagnostic) :
    failure? (diagnosticValue path d) = some (.of path d) := by
  cases hfix : d.fix? with
  | none =>
    simp [failure?, field?, diagnosticValue, hfix, List.lookup_cons, List.lookup_nil, string?, severity?_severityLabel,
      position?_positionValue, Failure.of]
  | some f =>
    simp [failure?, field?, diagnosticValue, hfix, List.lookup_cons, string?, severity?_severityLabel,
      position?_positionValue, fix?_fixValue, Failure.of]

/-! ## What is written -/

theorem plain_natural (levels : Nat) {n : Nat} (h : n < Decimal.wordBound) :
    Value.Plain levels (.integer n) :=
  .integer (by omega) (by exact_mod_cast h)

theorem plain_positionValue (levels : Nat) {p : Position} (h : p.FitsWords) :
    (positionValue p).Plain (levels + 1) := by
  refine .table ?_
  simp [plain_natural, h.line, h.character, h.offset]

theorem plain_fixValue (levels : Nat) {f : Fix} (h : f.FitsWords) :
    (fixValue f).Plain (levels + 1) := by
  refine .table ?_
  simp [plain_natural, h.offset, h.length, Value.Plain.string]

theorem plain_diagnosticValue (levels : Nat) (path : Path) {d : Diagnostic} (h : d.FitsWords) :
    (diagnosticValue path d).Plain (levels + 2) := by
  refine .table (List.forall_mem_append.2 ⟨?_, fun e he => ?_⟩)
  · simp [Value.Plain.string, plain_positionValue, h.start, h.stop]
  · obtain ⟨f, hf, rfl⟩ := Option.mem_map.1 (Option.mem_toList.1 he)
    exact plain_fixValue levels (h.fix f hf)

theorem plain_value (levels : Nat) {files : List (Path × List Diagnostic)}
    (h : ∀ file ∈ files, ∀ d ∈ file.2, d.FitsWords) : (value files).Plain (levels + 3) := by
  refine .list fun v hv => ?_
  obtain ⟨⟨path, diagnostics⟩, hfile, hv⟩ := List.mem_flatMap.1 hv
  obtain ⟨d, hd, rfl⟩ := List.mem_map.1 hv
  exact plain_diagnosticValue levels path (h _ hfile d hd)

/-! ## Whole reports -/

/-- All complaints with the paths of their files, file by file. -/
def complaints (files : List (Path × List Diagnostic)) : List (Path × Diagnostic) :=
  files.flatMap fun (path, diagnostics) => diagnostics.map (path, ·)

theorem value_eq_complaints (files : List (Path × List Diagnostic)) :
    value files = .list ((complaints files).map fun (path, d) => diagnosticValue path d) := by
  simp [value, complaints, List.map_flatMap, Function.comp_def]

theorem map_snd_complaints (files : List (Path × List Diagnostic)) :
    (complaints files).map (·.2) = (files.map (·.2)).flatten := by
  simp [complaints, Function.comp_def, List.flatMap_def]

/-- The totals count each complaint once, and each one with a fix. -/
theorem summary_complaints (files : List (Path × List Diagnostic)) :
    let summary := Summary.ofFiles (files.map (·.2))
    summary.errors + summary.warnings = (complaints files).length ∧
      summary.fixable = (complaints files).countP (·.2.isFixable) := by
  intro summary
  have hsummary : summary = { ({} : Summary).add ((complaints files).map (·.2)) with
      files := (files.map (·.2)).length } := by
    rw [map_snd_complaints]
    exact Summary.ofFiles_eq _
  have hproblems := Summary.problems_add {} ((complaints files).map (·.2))
  rw [hsummary]
  constructor
  · simpa [Summary.problems] using hproblems
  · simp [Summary.add, List.countP_map, Function.comp_def]

/-- A report in the form of data parses as a list with an object for each complaint, file by file.
    Every object gives back what is said about its complaint, with a fix exactly if there is one.
    The objects and those with fixes are as many as the totals say. -/
theorem parse_json (files : List (Path × List Diagnostic))
    (h : ∀ file ∈ files, ∀ d ∈ file.2, d.FitsWords) :
    ∃ items, Json.parse (json files) = .ok (.list items) ∧
      items = files.flatMap (fun (path, diagnostics) => diagnostics.map (diagnosticValue path)) ∧
      items.map failure? = (complaints files).map (fun (path, d) => some (.of path d)) ∧
      items.map hasFix = (complaints files).map (·.2.isFixable) ∧
      let summary := Summary.ofFiles (files.map (·.2))
      items.length = summary.errors + summary.warnings ∧ items.countP hasFix = summary.fixable := by
  have hparse : Json.parse (json files) = .ok (value files) := Json.parse_pretty (plain_value 124 h)
  have hitems := value_eq_complaints files
  obtain ⟨hproblems, hfixable⟩ := summary_complaints files
  refine ⟨_, hparse, rfl, ?_⟩
  rw [Value.list.inj hitems]
  refine ⟨?_, ?_, ?_, ?_⟩
  · simp [failure?_diagnosticValue, Function.comp_def]
  · simp [hasFix_diagnosticValue, Function.comp_def]
  · rw [List.length_map, hproblems]
  · rw [hfixable, List.countP_map]
    simp [hasFix_diagnosticValue, Function.comp_def]

/-- Complaints about two of three files, with quotes, backslashes, control characters and line
    breaks in their texts. -/
def awkward : List (Path × List Diagnostic) :=
  [(⟨"src\\\"a\".ts"⟩,
      [{ severity := .error, offset := 12, length := 7, message := "\x01 \"größe\"\n"
         fix? := some ⟨12, 2, "\r\n\t\\".toList⟩, start := ⟨1, 0, 12⟩, stop := ⟨1, 7, 19⟩ }]),
    (⟨"b.ts"⟩, []),
    (⟨"c.ts"⟩,
      [{ severity := .warning, offset := 0, length := 0, message := "", fix? := none
         start := ⟨0, 0, 0⟩, stop := ⟨0, 0, 0⟩ }])]

theorem fitsWords_awkward : ∀ file ∈ awkward, ∀ d ∈ file.2, d.FitsWords := by
  simp only [awkward, List.forall_mem_cons, List.not_mem_nil, false_imp_iff, implies_true,
    and_true, true_and]
  refine ⟨⟨⟨by decide, by decide, by decide⟩, ⟨by decide, by decide, by decide⟩, ?_⟩,
    ⟨by decide, by decide, by decide⟩, ⟨by decide, by decide, by decide⟩, ?_⟩
  · rintro f ⟨⟩
    exact ⟨by decide, by decide⟩
  · rintro f ⟨⟩

/-- All texts are recovered, and one of the two complaints has a fix. -/
theorem parse_json_awkward :
    (∀ file ∈ awkward, ∀ d ∈ file.2, d.FitsWords) ∧
      ∃ items, Json.parse (json awkward) = .ok (.list items) ∧
        items.map failure? =
          [some { name := "src\\\"a\".ts", failure := "\x01 \"größe\"\n"
                  ruleName := ClassSpacing.ruleName, severity := .error, start := ⟨1, 0, 12⟩
                  stop := ⟨1, 7, 19⟩, fix? := some ⟨12, 2, ['\r', '\n', '\t', '\\']⟩ },
            some { name := "c.ts", failure := "", ruleName := ClassSpacing.ruleName
                   severity := .warning, start := ⟨0, 0, 0⟩, stop := ⟨0, 0, 0⟩, fix? := none }] ∧
        items.map hasFix = [true, false] ∧ items.length = 1 + 1 ∧ items.countP hasFix = 1 := by
  obtain ⟨items, hparse, -, hfailures, hfixes, hlength, hcount⟩ :=
    parse_json awkward fitsWords_awkward
  simp only [awkward, complaints, Failure.of, List.flatMap_cons, List.flatMap_nil, List.map_append,
    List.map_cons, List.map_nil, Path.text_mk] at hfailures
  exact ⟨fitsWords_awkward, items, hparse, hfailures, hfixes, hlength, hcount⟩

end Report

end ClassSpacing
