import ClassSpacing.Command.Prepare
import ClassSpacing.Proofs.Config.OtherRules
import Mathlib.Data.String.Basic

/-!
# No silent defaults

`Config.settings?` forgets what is wrong with an entry, and both `Config.rule?` and the commands
take the default settings where it has none. After `Config.load` this can not hide a mistake: every
entry has been resolved before, in the same way, so the settings are missing exactly where there is
no entry. This rests on the order of the entries: their names increase, so that looking up a name
finds the one entry that was checked.
-/

namespace ClassSpacing

/-- Whether an entry asks for the rule to be switched off. -/
def Setting.switchesOff : Setting → Bool
  | enabled flag => !flag
  | options (.boolean flag :: _) => !flag
  | object (some severity) _ =>
    ["off", "none"].contains (String.ofList (severity.toList.map Char.toLower))
  | _ => false

namespace Setting

variable {rule : String} {setting : Setting} {settings : Settings}

theorem resolveSeverity_enabled (rule : String) (severity? : Option String)
    (values : List OptionValue) :
    (resolveSeverity rule severity?).1.enabled = !(object severity? values).switchesOff := by
  cases severity? with
  | none => rfl
  | some severity =>
    simp only [resolveSeverity, switchesOff]
    split <;> rename_i hword <;> simp_all

theorem resolveShape_enabled (rule : String) (setting : Setting)
    (hsound : (setting.resolveShape rule).2.2 = []) :
    (setting.resolveShape rule).1.enabled = !setting.switchesOff := by
  cases setting with
  | enabled flag => simp [resolveShape, switchesOff]
  | options values =>
    rcases values with _ | ⟨first, _⟩
    · cases hsound
    · cases first with
      | boolean flag => simp [resolveShape, switchesOff]
      | integer _ => cases hsound
      | float _ => cases hsound
      | string _ => cases hsound
  | object severity? values => exact resolveSeverity_enabled rule severity? values
  | unrecognized => rfl

theorem enabled_of_resolve (h : setting.resolve rule = .ok settings) :
    settings.enabled = !setting.switchesOff := by
  unfold resolve at h
  dsimp only at h
  split at h
  · next hissues =>
    rw [← resolveShape_enabled rule setting (List.append_eq_nil_iff.1 hissues).1]
    rw [← Except.ok.inj h]
  · cases h

end Setting

namespace Config

variable {format : ConfigFormat} {t : Text} {config : Config} {rule : String} {setting : Setting}

/-! ## The order of the entries -/

/-- The entries are in strictly increasing order of their names. -/
def Increasing (rules : List (String × Setting)) : Prop :=
  rules.Pairwise fun a b => a.1 < b.1

theorem mem_insertSorted {name : String} {rules : List (String × Setting)}
    {entry : String × Setting} (h : entry ∈ insertSorted name setting rules) :
    entry = (name, setting) ∨ entry ∈ rules := by
  fun_induction insertSorted name setting rules with
  | case1 => simpa using h
  | case2 n s rest hlt => simpa using h
  | case3 s rest hge =>
    rcases List.mem_cons.1 h with rfl | hmem
    · exact .inl rfl
    · exact .inr (List.mem_cons_of_mem _ hmem)
  | case4 n s rest hge hne ih =>
    rcases List.mem_cons.1 h with rfl | hmem
    · exact .inr List.mem_cons_self
    · exact (ih hmem).imp_right (List.mem_cons_of_mem _)

theorem Increasing.insertSorted {rules : List (String × Setting)} (h : Increasing rules)
    (name : String) (setting : Setting) : Increasing (insertSorted name setting rules) := by
  fun_induction Config.insertSorted name setting rules with
  | case1 => exact List.pairwise_singleton ..
  | case2 n s rest hlt =>
    refine List.pairwise_cons.2 ⟨fun entry hmem => ?_, h⟩
    rcases List.mem_cons.1 hmem with rfl | hmem
    · exact hlt
    · exact hlt.trans ((List.pairwise_cons.1 h).1 entry hmem)
  | case3 s rest hge => exact List.pairwise_cons.2 (List.pairwise_cons.1 h)
  | case4 n s rest hge hne ih =>
    obtain ⟨hfirst, hrest⟩ := List.pairwise_cons.1 h
    refine List.pairwise_cons.2 ⟨fun entry hmem => ?_, ih hrest⟩
    rcases mem_insertSorted hmem with rfl | hmem
    · exact lt_of_le_of_ne (not_lt.1 hge) hne
    · exact hfirst entry hmem

theorem increasing_ofEntries (entries : List (String × Value)) :
    Increasing (ofEntries entries).rules :=
  List.foldlRecOn entries _ .nil fun _ h entry _ => h.insertSorted entry.1 (.ofValue entry.2)

theorem exists_ofEntries_of_ofJson (h : ofJson t = .ok config) :
    ∃ entries, config = ofEntries entries := by
  unfold ofJson at h
  cases hread : jsonConfig t with
  | error fault => simp [hread, bind, Except.bind] at h
  | ok found =>
    cases hend : Json.finish found.2 with
    | error fault => simp [hread, hend, bind, Except.bind] at h
    | ok _ =>
      simp only [hread, hend, bind, Except.bind] at h
      exact ⟨found.1, (Except.ok.inj h).symm⟩

theorem exists_ofEntries_of_ofToml? (h : ofToml? t = some config) :
    ∃ entries, config = ofEntries entries := by
  obtain ⟨document, -, hrules⟩ := Option.bind_eq_some_iff.1 h
  split at hrules
  · exact ⟨[], (Option.some.inj hrules).symm⟩
  · next rules _ => exact ⟨rules, (Option.some.inj hrules).symm⟩
  · cases hrules

theorem increasing_of_parse (h : parse format t = .ok config) : Increasing config.rules := by
  have hmade : ∃ entries, config = ofEntries entries := by
    unfold parse at h
    cases format with
    | toml =>
      cases hread : ofToml? t with
      | none => simp [hread] at h
      | some found =>
        obtain rfl : found = config := by simpa [hread] using h
        exact exists_ofEntries_of_ofToml? hread
    | json =>
      cases hread : ofJson t with
      | error fault => simp [hread] at h
      | ok found =>
        obtain rfl : found = config := by simpa [hread] using h
        exact exists_ofEntries_of_ofJson hread
  obtain ⟨entries, rfl⟩ := hmade
  exact increasing_ofEntries entries

/-! ## Looking up entries -/

/-- Whether there is an entry for a rule. -/
def Mentions (config : Config) (rule : String) : Prop :=
  ∃ setting, (rule, setting) ∈ config.rules

theorem find?_eq_some_iff (h : Increasing config.rules) :
    config.find? rule = some setting ↔ (rule, setting) ∈ config.rules := by
  rw [find?, List.lookup_eq_some_iff]
  constructor
  · rintro ⟨before, after, hrules, -⟩
    simp [hrules]
  · intro hmem
    obtain ⟨before, after, hrules⟩ := List.append_of_mem hmem
    refine ⟨before, after, hrules, fun entry hbefore => ?_⟩
    rw [hrules] at h
    have hlt := (List.pairwise_append.1 h).2.2 entry hbefore _ List.mem_cons_self
    simpa using hlt.ne'

theorem find?_eq_none_iff (h : Increasing config.rules) :
    config.find? rule = none ↔ ¬config.Mentions rule := by
  simp [Mentions, ← find?_eq_some_iff h, Option.eq_none_iff_forall_ne_some]

/-! ## Malformed entries -/

/-- The entries with something wrong. -/
def malformed (config : Config) : List (String × Setting) :=
  config.rules.filter fun entry => !(entry.2.resolve entry.1).isOk

theorem entryIssues_eq_nil_iff {entry : String × Setting} :
    entryIssues entry = [] ↔ ∃ settings, entry.2.resolve entry.1 = .ok settings := by
  unfold entryIssues
  cases hresolve : entry.2.resolve entry.1 with
  | ok settings => simp
  | error issues => simp [ne_nil_of_resolve hresolve]

theorem mem_malformed {entry : String × Setting} :
    entry ∈ config.malformed ↔ entry ∈ config.rules ∧ entryIssues entry ≠ [] := by
  rw [malformed, List.mem_filter, Ne, entryIssues_eq_nil_iff]
  cases entry.2.resolve entry.1 <;> simp [Except.isOk, Except.toBool]

theorem issues_eq_malformed (config : Config) :
    config.issues = config.malformed.flatMap entryIssues := by
  rw [issues_eq_flatMap, malformed]
  induction config.rules with
  | nil => rfl
  | cons entry rest ih =>
    rw [List.flatMap_cons, ih, List.filter_cons]
    cases hresolve : entry.2.resolve entry.1 with
    | ok settings => simp [entryIssues, hresolve, Except.isOk, Except.toBool]
    | error issues => simp [Except.isOk, Except.toBool]

theorem parse_ne_invalid (path? : Option Path) (issues : List Issue) :
    parse format t ≠ .error (.invalid path? issues) := by
  unfold parse
  cases format with
  | toml => cases ofToml? t <;> simp
  | json => cases ofJson t <;> simp

theorem load_eq_invalid_iff {path? : Option Path} {issues : List Issue} :
    load format t = .error (.invalid path? issues) ↔
      path? = none ∧ issues ≠ [] ∧
        ∃ config, parse format t = .ok config ∧ config.issues = issues := by
  unfold load
  cases hparse : parse format t with
  | error e =>
    have hne : e ≠ .invalid path? issues := fun he => parse_ne_invalid path? issues (he ▸ hparse)
    simp [bind, Except.bind, hne]
  | ok config =>
    simp only [bind, Except.bind, Except.ok.injEq, exists_eq_left']
    cases hissues : config.issues with
    | nil => simp [pure, Except.pure, eq_comm]
    | cons first rest =>
      simp only [throw, throwThe, MonadExceptOf.throw, Except.error.injEq,
        ConfigError.invalid.injEq]
      constructor
      · rintro ⟨rfl, rfl⟩
        simp
      · rintro ⟨rfl, -, rfl⟩
        simp

/-! ## Loaded configurations -/

theorem exists_settings_of_load (h : load format t = .ok config)
    (hmem : (rule, setting) ∈ config.rules) :
    ∃ settings, setting.resolve rule = .ok settings ∧ config.settings? rule = some settings := by
  obtain ⟨hparse, hissues⟩ := load_eq_ok_iff.1 h
  rw [issues_eq_flatMap, List.flatMap_eq_nil_iff] at hissues
  obtain ⟨settings, hresolve⟩ := entryIssues_eq_nil_iff.1 (hissues _ hmem)
  refine ⟨settings, hresolve, ?_⟩
  have hfind := (find?_eq_some_iff (increasing_of_parse hparse)).2 hmem
  simp [settings?, hfind, hresolve, Except.toOption]

/-- Settings are missing only where there is no entry. -/
theorem settings?_eq_none_iff (h : load format t = .ok config) :
    config.settings? rule = none ↔ ¬config.Mentions rule := by
  have hincreasing := increasing_of_parse (load_eq_ok_iff.1 h).1
  constructor
  · rintro hnone ⟨setting, hmem⟩
    obtain ⟨settings, -, hsome⟩ := exists_settings_of_load h hmem
    simp [hnone] at hsome
  · intro hnot
    simp [settings?, (find?_eq_none_iff hincreasing).2 hnot]

end Config

/-- Without a number of lines on the command line, the rule is that of the configuration file, and
    what is wrong with the file is reported. -/
theorem Command.Selection.rule?_of_readText {s : Selection} {ws : Workspace} {path : Path}
    {t : Text} (hlines : s.lines? = none) (hpath : s.configPath? ws = some path)
    (hread : ws.readText path = .ok t) :
    s.rule? ws =
      match Config.load (.ofPath path) t with
      | .ok config => .ok config.rule?
      | .error e => .error (.config (e.inFile path)) := by
  simp only [rule?, configured, hpath, Workspace.loadConfig, hread]
  cases Config.load (.ofPath path) t with
  | ok config =>
    simp only [bind, Except.bind, pure, Except.pure, settings, hlines]
    rfl
  | error e => rfl

namespace Config

/-- Nothing falls back on the defaults silently. In a configuration that loads, every entry is
    resolved, and the spacing rule is the one that its entry asks for, also as the commands find it;
    the default rule is used exactly where there is no entry for it. A configuration whose entries
    are not all sound is refused, with the issues of all malformed entries in the order of their
    names. -/
theorem load_honours_entries (format : ConfigFormat) (t : Text) :
    (∀ config, load format t = .ok config →
      (∀ rule setting, (rule, setting) ∈ config.rules →
        ∃ settings, setting.resolve rule = .ok settings ∧ config.settings? rule = some settings) ∧
      (∀ setting, (ruleName, setting) ∈ config.rules →
        ∃ settings, setting.resolve ruleName = .ok settings ∧ config.rule? = settings.toRule? ∧
          (config.rule? = none ↔ setting.switchesOff)) ∧
      (config.settings? ruleName = none ↔ ¬config.Mentions ruleName) ∧
      (¬config.Mentions ruleName → config.rule? = some {})) ∧
    (∀ (s : Command.Selection) ws path, s.lines? = none → s.configPath? ws = some path →
      .ofPath path = format → ws.readText path = .ok t →
      s.rule? ws =
        match load format t with
        | .ok config => .ok config.rule?
        | .error e => .error (.config (e.inFile path))) ∧
    ∀ path? issues, load format t = .error (.invalid path? issues) →
      ∃ config, parse format t = .ok config ∧ config.malformed ≠ [] ∧
        Increasing config.malformed ∧ issues = config.malformed.flatMap entryIssues ∧
        ∀ entry ∈ config.malformed, entryIssues entry ≠ [] := by
  refine ⟨fun config hload => ⟨?_, ?_, settings?_eq_none_iff hload, ?_⟩, ?_, ?_⟩
  · intro rule setting hmem
    exact exists_settings_of_load hload hmem
  · intro setting hmem
    obtain ⟨settings, hresolve, hsettings⟩ := exists_settings_of_load hload hmem
    have hrule : config.rule? = settings.toRule? := by rw [rule?, hsettings, Option.getD_some]
    refine ⟨settings, hresolve, hrule, ?_⟩
    rw [hrule, Settings.toRule?, Setting.enabled_of_resolve hresolve]
    cases setting.switchesOff <;> simp
  · intro hnot
    rw [rule?, (settings?_eq_none_iff hload).2 hnot]
    rfl
  · rintro s ws path hlines hpath rfl hread
    exact Command.Selection.rule?_of_readText hlines hpath hread
  · intro path? issues hload
    obtain ⟨-, hne, config, hparse, rfl⟩ := load_eq_invalid_iff.1 hload
    refine ⟨config, hparse, ?_, (increasing_of_parse hparse).filter _, issues_eq_malformed config,
      fun entry hmem => (mem_malformed.1 hmem).2⟩
    intro hnil
    rw [issues_eq_malformed, hnil] at hne
    exact hne rfl

/-- A configuration with a severity and an option, as it is written. -/
def gradedText : Text :=
  ("\x7b\"rules\":\x7b\"lines-between-class-members\":" ++
    "\x7b\"severity\":\"WARN\",\"options\":[2]\x7d,\"curly\":true\x7d\x7d").toList

/-- The configuration of `gradedText`. -/
def graded : Config where
  rules := [("curly", .enabled true), (ruleName, .object (some "WARN") [.integer 2])]

theorem load_gradedText : load .json gradedText = .ok graded := by
  decide +kernel

/-- A configuration with two malformed entries, as it is written. -/
def spoiltText : Text :=
  "\x7b\"rules\":\x7b\"lines-between-class-members\":[true,1,2],\"curly\":[]\x7d\x7d".toList

/-- The issues of `spoiltText`. -/
def spoiltIssues : List Issue :=
  [.invalidOptions "curly" "options list is empty",
    .invalidOptions ruleName "takes at most one option, found 2"]

theorem load_spoiltText : load .json spoiltText = .error (.invalid none spoiltIssues) := by
  decide +kernel

/-- A severity and an option take effect, in a file that a command finds by itself; two malformed
    entries are both reported. -/
theorem load_honours_graded :
    let ws : Workspace := { files := [(["tslint.json"], Utf8.encode gradedText)] }
    let s : Command.Selection := { paths := [] }
    load .json gradedText = .ok graded ∧ graded.rule? = some ⟨.exactly 2, .warning⟩ ∧
      s.rule? ws = .ok graded.rule? ∧
      load .json spoiltText = .error (.invalid none spoiltIssues) ∧
      ∃ config, parse .json spoiltText = .ok config ∧
        spoiltIssues = config.malformed.flatMap entryIssues := by
  intro ws s
  obtain ⟨hsound, hcommand, -⟩ := load_honours_entries .json gradedText
  obtain ⟨-, -, hrefused⟩ := load_honours_entries .json spoiltText
  obtain ⟨-, hrule, -⟩ := hsound graded load_gradedText
  obtain ⟨settings, hresolve, hrule, -⟩ := hrule (.object (some "WARN") [.integer 2]) (by decide)
  have hsettings : settings = { severity := .warning, option? := some "2" } := by
    have : (Setting.object (some "WARN") [.integer 2]).resolve ruleName =
        .ok { severity := .warning, option? := some "2" } := by decide
    exact Except.ok.inj (hresolve.symm.trans this)
  have hpath : s.configPath? ws = some ⟨"/tslint.json"⟩ := by decide +kernel
  have hformat : .ofPath ⟨"/tslint.json"⟩ = ConfigFormat.json := by decide +kernel
  have hread : ws.readText ⟨"/tslint.json"⟩ = .ok gradedText := by decide +kernel
  obtain ⟨config, hparse, -, -, hissues, -⟩ := hrefused none spoiltIssues load_spoiltText
  refine ⟨load_gradedText, ?_, ?_, load_spoiltText, config, hparse, hissues⟩
  · rw [hrule, hsettings]
    rfl
  · rw [hcommand s ws _ rfl hpath hformat hread, load_gradedText]

end Config

end ClassSpacing
