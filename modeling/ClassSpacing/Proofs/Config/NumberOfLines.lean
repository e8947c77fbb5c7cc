import ClassSpacing.Proofs.Config.Defaults
import ClassSpacing.Proofs.Text.Numeral
import ClassSpacing.Proofs.Workspace.Layout

/-!
# The number of lines

The number of lines that the rule requires comes from the command line, or from an integer or a
string in a configuration. On each way it is a text at some point. `Config.lines_reach_rule` says
that it arrives unchanged all the same: numbers below `2 ^ 64` are read back from their decimal
form, whatever zeros stand before it, and a text that is not the decimal form of such a number is
kept as it is.
-/

namespace ClassSpacing

/-! ## Reading words -/

namespace Decimal

/-- The decimal form of a number behind some zeros. -/
def padded (zeros n : Nat) : String :=
  String.ofList (List.replicate zeros '0') ++ toString n

theorem toList_padded (zeros n : Nat) :
    (padded zeros n).toList = List.replicate zeros '0' ++ Nat.toDigits 10 n := by
  simp [padded]

theorem toList_padded_ne_nil (zeros n : Nat) : (padded zeros n).toList ≠ [] := by
  simp [toList_padded, Nat.toDigits_ne_nil]

theorem isDigit_of_mem_padded {zeros n : Nat} {c : Char} (h : c ∈ (padded zeros n).toList) :
    c.isDigit = true := by
  rw [toList_padded] at h
  rcases List.mem_append.1 h with hzero | hdigit
  · rw [List.eq_of_mem_replicate hzero]
    decide
  · exact Nat.isDigit_of_mem_toDigits (by decide) (by decide) hdigit

theorem notMem_padded (zeros n : Nat) {c : Char} (hc : c.isDigit = false) :
    c ∉ (padded zeros n).toList := by
  intro hmem
  rw [isDigit_of_mem_padded hmem] at hc
  cases hc

/-- Zeros in front do not count. -/
theorem ofDigitChars_padded (zeros n : Nat) :
    Nat.ofDigitChars 10 (padded zeros n).toList 0 = n := by
  rw [toList_padded, Nat.ofDigitChars_append, Nat.ofDigitChars_replicate_zero, Nat.mul_zero,
    Nat.ofDigitChars_toDigits (by decide) (by decide)]

theorem wordBound_eq : wordBound = 2 ^ 64 := rfl

/-- Exactly the non-empty texts of digits that denote a number of 64 bits are read. -/
theorem parseWord?_eq_some_iff {s : String} {n : Nat} :
    parseWord? s = some n ↔ s.toList ≠ [] ∧ (∀ c ∈ s.toList, c.isDigit = true) ∧
      Nat.ofDigitChars 10 s.toList 0 = n ∧ n < 2 ^ 64 := by
  have hvalue : value s.toList = Nat.ofDigitChars 10 s.toList 0 := foldl_push_eq s.toList 0
  have hall : s.toList.all isDigit = true ↔ ∀ c ∈ s.toList, c.isDigit = true := by
    simp [List.all_eq_true, isDigit_eq]
  have hread : parseWord? s = some n ↔
      ¬ (s.toList.isEmpty || !s.toList.all isDigit) = true ∧ value s.toList < wordBound ∧
        value s.toList = n := by
    unfold parseWord?
    simp only [Option.ite_none_left_eq_some, Option.ite_none_right_eq_some, Option.some.injEq]
  rw [hread, ← hall, ← hvalue, ← wordBound_eq]
  constructor
  · rintro ⟨hdigits, hlt, rfl⟩
    simp only [Bool.or_eq_true, Bool.not_eq_true', not_or, List.isEmpty_iff,
      Bool.not_eq_false] at hdigits
    exact ⟨hdigits.1, hdigits.2, rfl, hlt⟩
  · rintro ⟨hne, hdigits, rfl, hlt⟩
    exact ⟨by simp [hne, hdigits], hlt, rfl⟩

/-- The test for numbers that are too large, made at each digit, only ever sees smaller numbers than
    the one that is read. -/
theorem readDigits_eq_ok {digits : List Char} {n : Nat} (hdigits : ∀ c ∈ digits, c.isDigit = true)
    (hlt : digits.foldl push n < wordBound) :
    readDigits n digits = .ok (digits.foldl push n) := by
  induction digits generalizing n with
  | nil => rfl
  | cons c rest ih =>
    have hc : isDigit c = true := by rw [isDigit_eq, hdigits c List.mem_cons_self]
    have hpush : 10 * n + digitValue c = push n c := by rw [push, Nat.mul_comm]
    have hbound : push n c < wordBound := Nat.lt_of_le_of_lt (le_foldl_push rest (push n c)) hlt
    have hrest := ih (fun d hd => hdigits d (List.mem_cons_of_mem c hd)) hlt
    simp [readDigits, hc, hpush, hbound, hrest]

theorem readWord_padded (zeros : Nat) {n : Nat} (hlt : n < 2 ^ 64) :
    readWord (padded zeros n) = .ok n := by
  have hvalue : (padded zeros n).toList.foldl push 0 = n := by
    rw [foldl_push_eq, ofDigitChars_padded]
  have hread : readDigits 0 (padded zeros n).toList = .ok n := by
    rw [readDigits_eq_ok (fun c => isDigit_of_mem_padded) (by rwa [hvalue]), hvalue]
  have hplus := notMem_padded zeros n (c := '+') (by decide)
  unfold readWord
  split
  · next hnil => exact absurd hnil (toList_padded_ne_nil zeros n)
  · next heq => simp [heq] at hplus
  · next heq => simp [heq] at hplus
  · exact hread

end Decimal

open Decimal

/-! ## Options as texts -/

namespace Spacing

theorem ofOption_padded (zeros : Nat) {n : Nat} (hlt : n < 2 ^ 64) :
    ofOption (some (padded zeros n)) = .exactly n := by
  have hparse : parseWord? (padded zeros n) = some n :=
    parseWord?_eq_some_iff.2 ⟨toList_padded_ne_nil zeros n, fun _ => isDigit_of_mem_padded,
      ofDigitChars_padded zeros n, hlt⟩
  simp only [ofOption, hparse]

theorem ofOption_toString {n : Nat} (hlt : n < 2 ^ 64) :
    ofOption (some (toString n)) = .exactly n := by
  have hpadded : padded 0 n = toString n := by simp [padded]
  rw [← hpadded, ofOption_padded 0 hlt]

/-- What is not the decimal form of a number of 64 bits is kept as it is. -/
theorem ofOption_eq_invalid {text : String}
    (h : text = "" ∨ (∃ c ∈ text.toList, c.isDigit = false) ∨
      2 ^ 64 ≤ Nat.ofDigitChars 10 text.toList 0) :
    ofOption (some text) = .invalid text := by
  have hparse : parseWord? text = none := by
    refine Option.eq_none_iff_forall_ne_some.2 fun n hn => ?_
    obtain ⟨hne, hdigits, hvalue, hlt⟩ := parseWord?_eq_some_iff.1 hn
    rcases h with rfl | ⟨c, hc, hdigit⟩ | hge
    · exact hne rfl
    · rw [hdigits c hc] at hdigit
      cases hdigit
    · omega
  simp only [ofOption, hparse]

/-- An integer is read back from its decimal form, unless it starts with a minus sign. -/
theorem ofOption_integer (v : Int64) :
    ofOption (some (toString v.toInt)) =
      if 0 ≤ v.toInt then .exactly v.toInt.toNat
      else .invalid ("-" ++ toString v.toInt.natAbs) := by
  have hbound := v.toInt_lt
  cases hv : v.toInt with
  | ofNat n =>
    rw [hv, Int.ofNat_eq_natCast] at hbound
    rw [Int.ofNat_eq_natCast, if_pos (Int.natCast_nonneg n)]
    exact ofOption_toString (by omega)
  | negSucc n =>
    have hspelled : toString (Int.negSucc n) = "-" ++ toString (Int.negSucc n).natAbs := rfl
    rw [if_neg (by omega), ← hspelled]
    refine ofOption_eq_invalid (.inr (.inl ⟨'-', ?_, by decide⟩))
    rw [hspelled, String.toList_append]
    exact List.mem_append_left _ (by decide)

end Spacing

/-! ## The command line -/

namespace Command

theorem Given.takeValue_lines {g : Given} (zeros : Nat) {n : Nat} (hlt : n < 2 ^ 64)
    (hnew : g.has .lines = false) :
    g.takeValue .lines (padded zeros n) = ({ g.note .lines with lines? := some n }, none) := by
  simp [takeValue, hnew, setValue, readWord_padded zeros hlt]

theorem read_lines {scope : Scope} (hscope : scope.takesPaths = true) (rest : List String) :
    Given.read { scope } "--lines" rest = .ok { scope, pending := .value .lines none } := by
  cases scope with
  | program => cases hscope
  | check => rfl
  | fix => rfl

/-- A number is not taken for a parameter. -/
theorem Given.read_padded {g : Given} (hscope : g.scope.takesPaths = true) (zeros n : Nat)
    (rest : List String) : g.read (padded zeros n) rest = g.takeWord (padded zeros n) := by
  have hdash := notMem_padded zeros n (c := '-') (by decide)
  unfold read
  split
  · next heq => simp [heq] at hdash
  · next heq => simp [heq] at hdash
  · rw [if_pos hscope]

theorem padded_ne_dashes (zeros n : Nat) : padded zeros n ≠ "--" := by
  intro heq
  have hdash := notMem_padded zeros n (c := '-') (by decide)
  rw [heq] at hdash
  exact hdash (by decide)

theorem readCommand_cons {g : Given} {argument : String} (h : argument ≠ "--")
    (rest : List String) :
    readCommand g (argument :: rest) = (do readCommand (← g.read argument rest) rest) := by
  rw [readCommand]
  exact h

/-- The number is looked at when the command line ends. -/
theorem readCommand_lines {scope : Scope} (hscope : scope.takesPaths = true) (zeros : Nat) {n : Nat}
    (hlt : n < 2 ^ 64) :
    readCommand { scope } ["--lines", padded zeros n] =
      .ok { ({ scope } : Given).note .lines with lines? := some n } := by
  have hname : readCommand { scope } ["--lines", padded zeros n] =
      readCommand { scope, pending := .value .lines none } [padded zeros n] := by
    rw [readCommand_cons (by decide), read_lines hscope]
    rfl
  have hnumber : readCommand { scope, pending := .value .lines none } [padded zeros n] =
      readCommand { scope, pending := .value .lines (some (padded zeros n)) } [] := by
    have hread :=
      Given.read_padded (g := { scope, pending := .value .lines none }) hscope zeros n []
    rw [readCommand_cons (padded_ne_dashes zeros n), hread]
    rfl
  have hsettled : Given.settled { scope, pending := .value .lines (some (padded zeros n)) } =
      .ok { ({ scope } : Given).note .lines with lines? := some n } := by
    have htaken : ({ scope } : Given).takeValue .lines (padded zeros n) =
        ({ ({ scope } : Given).note .lines with lines? := some n }, none) :=
      Given.takeValue_lines zeros hlt rfl
    simp only [Given.settled, Given.settle, htaken]
  rw [hname, hnumber, readCommand, hsettled]
  rfl

theorem takesPaths_of_ofWord? {command : String} {scope : Scope}
    (h : Scope.ofWord? command = some scope) : scope.takesPaths = true := by
  unfold Scope.ofWord? at h
  split at h
  · cases h
    rfl
  · cases h
    rfl
  · cases h

/-- Either command takes a number of lines. -/
theorem readArguments_lines {command : String} {scope : Scope}
    (hcommand : Scope.ofWord? command = some scope) (zeros : Nat) {n : Nat} (hlt : n < 2 ^ 64) :
    ∃ invocation, readArguments [command, "--lines", padded zeros n] = .ok invocation ∧
      invocation.selection = { paths := [⟨"."⟩], lines? := some n } := by
  have hgiven := readCommand_lines (takesPaths_of_ofWord? hcommand) zeros hlt
  have hprogram : readProgram { scope := .program } [command, "--lines", padded zeros n] =
      .ok ({ scope := .program },
        some { ({ scope } : Given).note .lines with lines? := some n }) := by
    simp only [readProgram, hcommand, hgiven]
    rfl
  exact ⟨_, by rw [readArguments, hprogram]; rfl, rfl⟩

/-- A number of lines on the command line overrides all of the settings but the severity. -/
theorem Selection.rule?_of_lines {s : Selection} {n : Nat} (hlt : n < 2 ^ 64)
    (hlines : s.lines? = some n) (ws : Workspace) :
    s.rule? ws = (s.configured ws).map fun configured =>
      some ⟨.exactly n, ((configured.config.settings? ruleName).getD {}).severity⟩ := by
  unfold rule?
  cases s.configured ws with
  | error obstacle => rfl
  | ok configured =>
    have hrule : (s.settings configured.config).toRule? =
        some ⟨.exactly n, ((configured.config.settings? ruleName).getD {}).severity⟩ := by
      simp only [settings, hlines, Settings.toRule?, Rule.ofOption, Spacing.ofOption_toString hlt,
        if_true]
    exact congrArg Except.ok hrule

end Command

/-! ## Configurations -/

namespace Setting

/-- The entries that leave the rule switched on and have one option: a list with a flag before it,
    or a table with a severity that is known, or none. -/
inductive Gives (value : OptionValue) : Setting → Prop
  | list : Gives value (.options [.boolean true, value])
  | table {severity? : Option String} (hword : severity?.all isSeverityWord = true)
      (hon : (object severity? [value]).switchesOff = false) :
      Gives value (.object severity? [value])

variable {value : OptionValue} {setting : Setting}

theorem Gives.resolveShape_eq (h : setting.Gives value) :
    ∃ settings, setting.resolveShape ruleName = (settings, [value], []) ∧
      settings.enabled = true := by
  cases h with
  | list => exact ⟨{}, rfl, rfl⟩
  | @table severity? hword hon =>
    refine ⟨(resolveSeverity ruleName severity?).1, ?_, ?_⟩
    · have hissues := resolveSeverity_issues ruleName severity?
      rw [if_pos hword, List.map_eq_nil_iff] at hissues
      simp only [resolveShape, hissues]
    · rw [resolveSeverity_enabled ruleName severity? [value], hon]
      rfl

end Setting

namespace Config

/-- The option of an entry is handed to the rule as a text. -/
theorem rule?_of_gives {config : Config} {setting : Setting} {value : OptionValue} {text : String}
    (h : setting.Gives value) (htext : value.text? = some text)
    (hfind : config.find? ruleName = some setting) :
    config.rule? =
      some ⟨.ofOption (some text), (setting.resolveShape ruleName).1.severity⟩ := by
  obtain ⟨settings, hshape, hon⟩ := h.resolveShape_eq
  have hresolve : setting.resolve ruleName = .ok { settings with option? := some text } := by
    simp [Setting.resolve, hshape, Setting.resolveOptions, htext]
  have hsettings : config.settings? ruleName = some { settings with option? := some text } := by
    simp [settings?, hfind, hresolve, Except.toOption]
  simp [rule?, hsettings, Settings.toRule?, hon, Rule.ofOption, hshape]

/-- The number of lines reaches the rule unchanged. A text is read as a number below `2 ^ 64` if it
    is the decimal form of one, behind any number of zeros, and else it is kept as it is. A command
    takes such a form for the number; the rule is then switched on, requires that number and keeps
    the severity of the configuration, whatever else that says. An integer of 64 bits in an entry of
    a configuration is the number if it is not negative, and else its decimal form is kept; a string
    there is read as a text. -/
theorem lines_reach_rule :
    (∀ zeros n, n < 2 ^ 64 → Spacing.ofOption (some (padded zeros n)) = .exactly n) ∧
    (∀ text, text = "" ∨ (∃ c ∈ text.toList, c.isDigit = false) ∨
        2 ^ 64 ≤ Nat.ofDigitChars 10 text.toList 0 →
      Spacing.ofOption (some text) = .invalid text) ∧
    (∀ command scope zeros n, Command.Scope.ofWord? command = some scope → n < 2 ^ 64 →
      ∃ invocation,
        Command.readArguments [command, "--lines", padded zeros n] = .ok invocation ∧
        invocation.selection = { paths := [⟨"."⟩], lines? := some n }) ∧
    (∀ (s : Command.Selection) n ws, n < 2 ^ 64 → s.lines? = some n →
      s.rule? ws = (s.configured ws).map fun configured =>
        some ⟨.exactly n, ((configured.config.settings? ruleName).getD {}).severity⟩) ∧
    (∀ (config : Config) (setting : Setting) (v : Int64), setting.Gives (.integer v.toInt) →
      config.find? ruleName = some setting →
      config.rule? = some
        ⟨if 0 ≤ v.toInt then .exactly v.toInt.toNat
          else .invalid ("-" ++ toString v.toInt.natAbs),
          (setting.resolveShape ruleName).1.severity⟩) ∧
    ∀ (config : Config) (setting : Setting) text, setting.Gives (.string text) →
      config.find? ruleName = some setting →
      config.rule? =
        some ⟨.ofOption (some text), (setting.resolveShape ruleName).1.severity⟩ := by
  refine ⟨?_, ?_, ?_, ?_, ?_, ?_⟩
  · intro zeros n hlt
    exact Spacing.ofOption_padded zeros hlt
  · intro text hnot
    exact Spacing.ofOption_eq_invalid hnot
  · intro command scope zeros n hcommand hlt
    exact Command.readArguments_lines hcommand zeros hlt
  · intro s n ws hlt hlines
    exact Command.Selection.rule?_of_lines hlt hlines ws
  · intro config setting v hgives hfind
    rw [rule?_of_gives hgives rfl hfind, Spacing.ofOption_integer]
  · intro config setting text hgives hfind
    exact rule?_of_gives hgives rfl hfind

/-- The largest number with zeros before it, the next one, a number on the command line in place of
    an option, and the least integer in a table. -/
theorem lines_reach_rule_limits :
    let ws : Workspace := { files := [(["tslint.json"], Utf8.encode gradedText)] }
    let s : Command.Selection := { paths := [], lines? := some 0 }
    let setting : Setting := .object (some "Warn") [.integer (-0x8000000000000000)]
    Spacing.ofOption (some "0018446744073709551615") = .exactly 18446744073709551615 ∧
      Spacing.ofOption (some "18446744073709551616") = .invalid "18446744073709551616" ∧
      s.rule? ws = .ok (some ⟨.exactly 0, .warning⟩) ∧
      (Config.mk [(ruleName, setting)]).rule? =
        some ⟨.invalid "-9223372036854775808", .warning⟩ := by
  intro ws s setting
  obtain ⟨hpadded, hinvalid, -, hcommand, hinteger, -⟩ := lines_reach_rule
  have hzeros : padded 2 18446744073709551615 = "0018446744073709551615" := by decide
  have hlarge : 2 ^ 64 ≤ Nat.ofDigitChars 10 "18446744073709551616".toList 0 := by decide
  have hpath : s.configPath? ws = some ⟨"/tslint.json"⟩ := by decide +kernel
  have hopen : ws.openFile ⟨"/tslint.json"⟩ = .ok (["tslint.json"], Utf8.encode gradedText) := by
    decide +kernel
  have hread := Workspace.readText_eq_ok_iff.2 ⟨_, hopen⟩
  have hformat : ConfigFormat.ofPath ⟨"/tslint.json"⟩ = .json := by decide +kernel
  have hconfigured : s.configured ws = .ok ⟨some ⟨"/tslint.json"⟩, graded⟩ := by
    simp only [Command.Selection.configured, hpath, Workspace.loadConfig, hread, hformat,
      load_gradedText]
  have hgives : setting.Gives (.integer (Int64.minValue).toInt) :=
    .table (by decide) (by decide)
  refine ⟨?_, hinvalid _ (.inr (.inr hlarge)), ?_, ?_⟩
  · rw [← hzeros, hpadded 2 _ (by decide)]
  · rw [hcommand s 0 ws (by decide) rfl, hconfigured]
    rfl
  · rw [hinteger _ setting Int64.minValue hgives rfl]
    rfl

end Config

end ClassSpacing
