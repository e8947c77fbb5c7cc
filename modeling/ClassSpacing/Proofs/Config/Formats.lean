import ClassSpacing.Proofs.Config.OtherRules
import ClassSpacing.Proofs.Json.Documents
import ClassSpacing.Proofs.Toml.Documents

/-!
# Both formats agree

An entry that is written in JSON and in TOML, each in any style, is read as the same setting. So
both documents load with the same settings, or both are refused with the same issues.
-/

namespace ClassSpacing.Config

/-! ## Settings of entries -/

/-- The setting that an entry is. -/
def Entry.setting : Entry → Setting
  | flag b => .enabled b
  | list items => .options (items.map Item.toOption)
  | table severity? options? => .object severity? ((options?.getD []).map Item.toOption)

/-- An integer of 64 bits stays an integer. -/
theorem ofValue?_item (i : Item) : OptionValue.ofValue? i.toValue = some i.toOption := by
  cases i with
  | boolean b => rfl
  | string s => rfl
  | integer n =>
    have hle := n.le_toInt
    have hlt := n.toInt_lt
    have hbounds : OptionValue.minInteger ≤ n.toInt ∧ n.toInt ≤ OptionValue.maxInteger := by
      unfold OptionValue.minInteger OptionValue.maxInteger
      omega
    simp [OptionValue.ofValue?, Item.toValue, Item.toOption, hbounds]

theorem optionsOf?_items (items : List Item) :
    Setting.optionsOf? (items.map Item.toValue) = some (items.map Item.toOption) := by
  unfold Setting.optionsOf?
  induction items with
  | nil => rfl
  | cons i more ih => simp [ofValue?_item, ih]

/-- Each field of a table is found under its key, in whatever order they are. -/
theorem valuesAt_bindings (style : Style) (severity? : Option String)
    (options? : Option (List Item)) :
    Setting.valuesAt "severity" ((style.bindings severity? options?).map Binding.entry) =
        severity?.toList.map Value.string ∧
      Setting.valuesAt "options" ((style.bindings severity? options?).map Binding.entry) =
        options?.toList.map fun items => Value.list (items.map Item.toValue) := by
  unfold Style.bindings Style.fields
  cases style.optionsFirst <;> cases severity? <;> cases options? <;> exact ⟨rfl, rfl⟩

/-- A written entry is read as its setting. -/
theorem ofValue_value (style : Style) (entry : Entry) :
    Setting.ofValue (style.value entry) = entry.setting := by
  cases entry with
  | flag b => rfl
  | list items => simp [Style.value, Setting.ofValue, Entry.setting, optionsOf?_items]
  | table severity? options? =>
    obtain ⟨hseverity, hoptions⟩ := valuesAt_bindings style severity? options?
    have hseverity : Setting.severityOf? ((style.bindings severity? options?).map Binding.entry) =
        some severity? := by
      rw [Setting.severityOf?, hseverity]
      cases severity? <;> rfl
    have hoptions : Setting.tableOptions? ((style.bindings severity? options?).map Binding.entry) =
        some ((options?.getD []).map Item.toOption) := by
      rw [Setting.tableOptions?, hoptions]
      cases options? with
      | none => rfl
      | some items => exact optionsOf?_items items
    simp only [Style.value, Setting.ofValue, hseverity, hoptions]
    rfl

/-! ## Loading -/

/-- The configuration with an entry for the spacing rule only. -/
def ofSetting (setting : Setting) : Config :=
  ⟨[(ruleName, setting)]⟩

theorem settings?_ofSetting (setting : Setting) :
    (ofSetting setting).settings? ruleName = (setting.resolve ruleName).toOption := by
  simp [settings?, find?, ofSetting]

/-- A configuration with one entry is refused for the issues of that entry only. -/
theorem load_of_parse {format : ConfigFormat} {t : Text} {setting : Setting}
    (h : parse format t = .ok (ofSetting setting)) :
    load format t =
      match setting.resolve ruleName with
      | .ok _ => .ok (ofSetting setting)
      | .error issues => .error (.invalid none issues) := by
  cases hresolve : setting.resolve ruleName with
  | ok settings =>
    have hissues : (ofSetting setting).issues = [] := by simp [issues, ofSetting, hresolve]
    simp only [load, h, bind, Except.bind, hissues]
    rfl
  | error found =>
    have hissues : (ofSetting setting).issues = found := by simp [issues, ofSetting, hresolve]
    simp only [load, h, bind, Except.bind, hissues]
    split
    · exact absurd rfl (ne_nil_of_resolve hresolve)
    · rfl

theorem parse_jsonText (style : Style) (entry : Entry) :
    parse .json (style.jsonText entry) = .ok (ofSetting entry.setting) := by
  rw [parse, ofJson_jsonText, ← ofValue_value style entry]
  rfl

theorem parse_tomlText (style : Style) (entry : Entry) :
    parse .toml (style.tomlText entry) = .ok (ofSetting entry.setting) := by
  have htoml : ofToml? (style.tomlText entry) =
      some (ofEntries [(ruleName, style.value entry)]) := by
    rw [ofToml?, Toml.parse?_tomlText]
    rfl
  rw [parse, htoml, ← ofValue_value style entry]
  rfl

/-- Write an entry for the spacing rule in TOML and in JSON, each in any style. Either both
    documents load with the settings that the entry amounts to, or both are refused with all that
    is wrong with it. -/
theorem load_toml_agrees_with_json (entry : Entry) (tomlStyle jsonStyle : Style) :
    (∃ settings tomlConfig jsonConfig, entry.setting.resolve ruleName = .ok settings ∧
        load .toml (tomlStyle.tomlText entry) = .ok tomlConfig ∧
        load .json (jsonStyle.jsonText entry) = .ok jsonConfig ∧
        tomlConfig.settings? ruleName = some settings ∧
        jsonConfig.settings? ruleName = some settings) ∨
      ∃ issues, issues ≠ [] ∧ entry.setting.resolve ruleName = .error issues ∧
        load .toml (tomlStyle.tomlText entry) = .error (.invalid none issues) ∧
        load .json (jsonStyle.jsonText entry) = .error (.invalid none issues) := by
  have htoml := load_of_parse (parse_tomlText tomlStyle entry)
  have hjson := load_of_parse (parse_jsonText jsonStyle entry)
  have hsettings := settings?_ofSetting entry.setting
  cases hresolve : entry.setting.resolve ruleName with
  | ok settings =>
    rw [hresolve] at htoml hjson hsettings
    exact .inl ⟨settings, _, _, rfl, htoml, hjson, hsettings, hsettings⟩
  | error issues =>
    rw [hresolve] at htoml hjson
    exact .inr ⟨issues, ne_nil_of_resolve hresolve, rfl, htoml, hjson⟩

-- The same entry in three ways, with a control character in its severity.
example : String.ofList (Style.tomlText {} (.table (some "warn\x7f") (some [.integer (-3)]))) =
    "[rules]\nlines-between-class-members = " ++
      "\x7bseverity = \"warn\\u007f\", options = [-3]\x7d\n" := by
  decide

example : String.ofList
    (Style.tomlText { ownHeader := true } (.table (some "warn\x7f") (some [.integer (-3)]))) =
      "[rules.lines-between-class-members]\nseverity = \"warn\\u007f\"\noptions = [-3]\n" := by
  decide

example : String.ofList (Style.jsonText {} (.table (some "warn\x7f") (some [.integer (-3)]))) =
    "\x7b\"rules\": \x7b\"lines-between-class-members\": " ++
      "\x7b\"severity\": \"warn\\u007f\", \"options\": [-3]\x7d\x7d\x7d" := by
  decide

end ClassSpacing.Config
