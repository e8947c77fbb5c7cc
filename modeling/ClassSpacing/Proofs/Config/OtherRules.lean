import ClassSpacing.Config.Load
import Mathlib.Control.Monad.Basic

/-!
# Entries for other rules

A configuration may hold entries for rules of other tools. They never change the spacing rule, which
is looked up by its name. But the shape of every entry is checked: a list must start with a flag and
a severity must be one of a few words, whatever the rule. `Setting.isRegular` says which entries pass
under another rule's name. The issues of a configuration whose own entry is sound name exactly the
other rules with irregular entries.
-/

namespace ClassSpacing

/-- The rule that an issue is about. -/
def Issue.rule : Issue → String
  | unknownSeverity rule _ => rule
  | invalidOptions rule _ => rule

namespace Setting

/-- The words for a severity, in lower case. -/
def severityWords : List String :=
  ["error", "default", "warning", "warn", "off", "none"]

/-- Whether a text is a word for a severity, in any mixture of cases. -/
def isSeverityWord (value : String) : Bool :=
  severityWords.contains (String.ofList (value.toList.map Char.toLower))

/-- Whether an entry has a shape that is accepted for a rule of another tool. -/
def isRegular : Setting → Bool
  | enabled _ => true
  | options (.boolean _ :: _) => true
  | options _ => false
  | object severity? _ => severity?.all isSeverityWord
  | unrecognized => true

variable {rule : String}

theorem resolveSeverity_issues (rule : String) (severity? : Option String) :
    (resolveSeverity rule severity?).2.map Issue.rule =
      if severity?.all isSeverityWord then [] else [rule] := by
  cases severity? with
  | none => rfl
  | some value =>
    simp only [resolveSeverity, Option.all_some, isSeverityWord, severityWords]
    split <;> rename_i hword <;> simp_all [Issue.rule]

/-- An entry for another rule has one issue if it is irregular, and else none. -/
theorem resolveShape_issues (hrule : rule ≠ ruleName) (setting : Setting) :
    (setting.resolveShape rule).2.2.map Issue.rule = if setting.isRegular then [] else [rule] := by
  cases setting with
  | enabled flag => rfl
  | options values =>
    match values with
    | [] => rfl
    | .boolean _ :: _ => rfl
    | .integer _ :: _ => rfl
    | .float _ :: _ => rfl
    | .string _ :: _ => rfl
  | object severity? values => exact resolveSeverity_issues rule severity?
  | unrecognized => simp [resolveShape, isRegular, hrule]

end Setting

namespace Config

/-- Nothing is refused without an issue. -/
theorem ne_nil_of_resolve {rule : String} {setting : Setting} {issues : List Issue}
    (h : setting.resolve rule = .error issues) : issues ≠ [] := by
  unfold Setting.resolve at h
  dsimp only at h
  split at h
  · cases h
  · next hne =>
    rintro rfl
    exact hne (Except.error.inj h)

/-- What is wrong with one entry. -/
def entryIssues (entry : String × Setting) : List Issue :=
  match entry.2.resolve entry.1 with
  | .ok _ => []
  | .error issues => issues

theorem issues_eq_flatMap (config : Config) : config.issues = config.rules.flatMap entryIssues := rfl

theorem entryIssues_of_ne {rule : String} (hrule : rule ≠ ruleName) (setting : Setting) :
    entryIssues (rule, setting) = (setting.resolveShape rule).2.2 := by
  unfold entryIssues Setting.resolve
  simp only [if_neg hrule, List.append_nil]
  cases (setting.resolveShape rule).2.2 <;> rfl

/-- The entries for other rules that are refused. -/
def irregular (config : Config) : List (String × Setting) :=
  config.rules.filter fun entry => entry.1 != ruleName && !entry.2.isRegular

/-- If the entry for the spacing rule is absent or sound, the issues name the other rules with
    irregular entries, in the order of the entries. -/
theorem rules_issues {config : Config}
    (hown : ∀ setting, (ruleName, setting) ∈ config.rules →
      ∃ settings, setting.resolve ruleName = .ok settings) :
    config.issues.map Issue.rule = config.irregular.map Prod.fst := by
  obtain ⟨rules⟩ := config
  rw [issues_eq_flatMap, irregular]
  induction rules with
  | nil => rfl
  | cons entry rest ih =>
    have hrest := ih fun setting hmem => hown setting (List.mem_cons_of_mem _ hmem)
    obtain ⟨name, setting⟩ := entry
    rw [List.flatMap_cons, List.map_append, hrest]
    by_cases hname : name = ruleName
    · subst hname
      obtain ⟨settings, hsound⟩ := hown setting List.mem_cons_self
      simp [entryIssues, hsound]
    · rw [entryIssues_of_ne hname, Setting.resolveShape_issues hname]
      by_cases hregular : setting.isRegular = true <;> simp [hname, hregular]

/-- The configuration without the entries of all other rules. -/
def only (config : Config) (rule : String) : Config where
  rules := config.rules.filter (·.1 == rule)

theorem find?_only (config : Config) (rule : String) :
    (config.only rule).find? rule = config.find? rule := by
  unfold find? only
  induction config.rules with
  | nil => rfl
  | cons entry rest ih =>
    obtain ⟨name, setting⟩ := entry
    by_cases hname : name = rule
    · subst hname
      simp
    · rw [List.filter_cons_of_neg (by simpa using hname), ih, List.lookup_cons]
      simp [show (rule == name) = false by simpa using fun h => hname h.symm]

theorem rule?_only (config : Config) : (config.only ruleName).rule? = config.rule? := by
  unfold rule? settings?
  rw [find?_only]

theorem load_eq_ok_iff {format : ConfigFormat} {t : Text} {config : Config} :
    load format t = .ok config ↔ parse format t = .ok config ∧ config.issues = [] := by
  unfold load
  cases parse format t with
  | error e => simp [bind, Except.bind]
  | ok found =>
    simp only [bind, Except.bind, Except.ok.injEq]
    split
    · rename_i hissues
      constructor
      · intro h
        obtain rfl : found = config := Except.ok.inj h
        exact ⟨rfl, hissues⟩
      · rintro ⟨rfl, -⟩
        rfl
    · rename_i hissues
      constructor
      · intro h
        cases h
      · rintro ⟨rfl, hnone⟩
        exact absurd hnone hissues

/-- Entries for other rules never change the spacing rule, but they can make a configuration fail:
    where the rule's own entry is absent or sound, there is one issue for each irregular entry of
    another rule, so that the configuration loads exactly if there is none. -/
theorem load_eq_ok_iff_irregular_eq_nil (config : Config)
    (hown : ∀ setting, (ruleName, setting) ∈ config.rules →
      ∃ settings, setting.resolve ruleName = .ok settings) :
    config.issues.map Issue.rule = config.irregular.map Prod.fst ∧
    (∀ format t, parse format t = .ok config →
      (load format t = .ok config ↔ config.irregular = [])) ∧
    config.rule? = (config.only ruleName).rule? := by
  have hrules := rules_issues hown
  refine ⟨hrules, ?_, (rule?_only config).symm⟩
  intro format t hparse
  have hnil : config.issues = [] ↔ config.irregular = [] := by
    rw [← List.map_eq_nil_iff (f := Issue.rule), hrules, List.map_eq_nil_iff]
  rw [load_eq_ok_iff, hnil]
  exact and_iff_right hparse

/-- A configuration with a list of strings for another rule. -/
def quotemark : Config where
  rules := [(ruleName, .options [.boolean true, .integer 2]),
    ("quotemark", .options [.string "double"])]

/-- The configuration `quotemark` as it is written. -/
def quotemarkText : Text :=
  "\x7b\"rules\":\x7b\"quotemark\":[\"double\"],\"lines-between-class-members\":[true,2]\x7d\x7d".toList

theorem parse_quotemarkText : parse .json quotemarkText = .ok quotemark := by
  decide +kernel

/-- A list of strings for another rule makes a configuration fail whose own entry is sound. -/
theorem load_refuses_quotemark :
    (∀ setting, (ruleName, setting) ∈ quotemark.rules →
        setting.resolve ruleName = .ok { option? := some "2" }) ∧
      parse .json quotemarkText = .ok quotemark ∧
      quotemark.issues.map Issue.rule = ["quotemark"] ∧
      load .json quotemarkText ≠ .ok quotemark ∧
      quotemark.rule? = (quotemark.only ruleName).rule? := by
  have hown : ∀ setting, (ruleName, setting) ∈ quotemark.rules →
      setting.resolve ruleName = .ok { option? := some "2" } := by
    intro setting hmem
    obtain rfl : setting = .options [.boolean true, .integer 2] := by
      simpa [quotemark, ruleName] using hmem
    rfl
  obtain ⟨hissues, hload, hrule⟩ :=
    load_eq_ok_iff_irregular_eq_nil quotemark fun setting hmem => ⟨_, hown setting hmem⟩
  have hirregular : quotemark.irregular = [("quotemark", .options [.string "double"])] := rfl
  refine ⟨hown, parse_quotemarkText, by rw [hissues, hirregular]; rfl, fun h => ?_, hrule⟩
  rw [(hload .json quotemarkText parse_quotemarkText).1 h] at hirregular
  cases hirregular

end Config

end ClassSpacing
