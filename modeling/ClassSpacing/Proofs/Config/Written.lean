import ClassSpacing.Config.Load
import ClassSpacing.Proofs.Text.Numeral

/-!
# Entries as they are written

An entry for a rule can be written in JSON and in TOML. Items and lists of items look the same in
both; a table has quoted keys and colons in JSON, and bare keys and equality signs in TOML, where it
may also stand below a header of its own. A `Style` fills in what the formats leave open.
-/

namespace ClassSpacing.Config

/-! ## What is written -/

/-- An item of a list of options. -/
inductive Item where
  | boolean (b : Bool)
  | integer (n : Int64)
  | string (s : String)
deriving Repr, DecidableEq

/-- The value that an item is. -/
def Item.toValue : Item → Value
  | boolean b => .boolean b
  | integer n => .integer n.toInt
  | string s => .string s

/-- The option that an item is. -/
def Item.toOption : Item → OptionValue
  | boolean b => .boolean b
  | integer n => .integer n.toInt
  | string s => .string s

/-- A field of a table. -/
inductive Field where
  | severity (s : String)
  | options (items : List Item)
deriving Repr, DecidableEq

namespace Field

/-- The key of a field. -/
def key : Field → String
  | severity _ => "severity"
  | options _ => "options"

/-- The value of a field. -/
def toValue : Field → Value
  | severity s => .string s
  | options items => .list (items.map Item.toValue)

end Field

/-- An entry for a rule, of one of the three accepted shapes. -/
inductive Entry where
  | flag (b : Bool)
  | list (items : List Item)
  | table (severity? : Option String) (options? : Option (List Item))
deriving Repr, DecidableEq

/-- A key, the text of its value, and the value. -/
structure Binding where
  key : String
  text : Text
  value : Value

/-- A binding without the text. -/
def Binding.entry (b : Binding) : String × Value :=
  (b.key, b.value)

/-! ## How it is written -/

/-- What can be chosen about the text of an entry. -/
structure Style where
  /-- The number of spaces behind commas and colons, and around equality signs. -/
  gap : Nat := 1
  /-- The number of spaces inside of brackets and braces, around dots and before colons. -/
  padding : Nat := 0
  /-- Whether the digits of escapes are upper case letters. -/
  upperCase : Bool := false
  /-- The characters that are escaped without need. -/
  escapesToo : Char → Bool := fun _ => false
  /-- Whether the options of a table stand before its severity. -/
  optionsFirst : Bool := false
  /-- Whether a table has a header of its own in TOML. -/
  ownHeader : Bool := false

/-- Whether a character must not stand between quotes in one of the formats. -/
def needsEscape (c : Char) : Bool :=
  c == '"' || c == '\\' || c.toNat < 0x20 || c.toNat == 0x7F

/-- Some spaces between two tokens. -/
def blanks (count : Nat) : Text :=
  List.replicate count ' '

/-- A key before a value or in a header, and the mark behind it. -/
def keyed (key : String) (gap : Nat) (mark : Char) (rest : Text) : Text :=
  key.toList ++ (blanks gap ++ mark :: rest)

namespace Style

variable (style : Style)

/-- A digit below sixteen. -/
def hexDigit (n : Nat) : Char :=
  if style.upperCase then (Nat.digitChar (n % 16)).toUpper else Nat.digitChar (n % 16)

/-- A character by its number, which has four digits. -/
def numbered (c : Char) : Text :=
  ['\\', 'u', style.hexDigit (c.toNat / 4096), style.hexDigit (c.toNat / 256),
    style.hexDigit (c.toNat / 16), style.hexDigit c.toNat]

/-- Whether a character is written by its number. Characters beyond the first plane never are. -/
def escapes (c : Char) : Bool :=
  needsEscape c || (style.escapesToo c && c.toNat < 0x10000)

/-- A character between quotes. -/
def character (c : Char) : Text :=
  if style.escapes c then style.numbered c else [c]

/-- The characters of a string. -/
def characters (s : String) : Text :=
  s.toList.flatMap style.character

/-- A string in quotes. -/
def quoted (s : String) : Text :=
  '"' :: (style.characters s ++ ['"'])

/-- The parts of a list or a table behind the first one, each behind a comma, and its end. -/
def tail (closing : Char) : List Text → Text
  | [] => blanks style.padding ++ [closing]
  | part :: parts => ',' :: (blanks style.gap ++ (part ++ tail closing parts))

/-- The parts of a list or a table, the first one behind some spaces, and its end. -/
def body (lead : Nat) (closing : Char) : List Text → Text
  | [] => blanks style.padding ++ [closing]
  | part :: parts => blanks lead ++ (part ++ style.tail closing parts)

/-- A list or a table with the given parts. -/
def enclose (opening closing : Char) (parts : List Text) : Text :=
  opening :: style.body style.padding closing parts

/-- An item. -/
def item : Item → Text
  | .boolean true => ['t', 'r', 'u', 'e']
  | .boolean false => ['f', 'a', 'l', 's', 'e']
  | .integer n => (toString n.toInt).toList
  | .string s => style.quoted s

/-- A list of items. -/
def list (items : List Item) : Text :=
  style.enclose '[' ']' (items.map style.item)

/-- The value of a field. -/
def fieldValue : Field → Text
  | .severity s => style.quoted s
  | .options items => style.list items

/-- A field with its text. -/
def binding (f : Field) : Binding :=
  ⟨f.key, style.fieldValue f, f.toValue⟩

/-- The fields of a table, in their order. -/
def fields (severity? : Option String) (options? : Option (List Item)) : List Field :=
  let severity := severity?.toList.map Field.severity
  let options := options?.toList.map Field.options
  if style.optionsFirst then options ++ severity else severity ++ options

/-- The fields of a table with their texts. -/
def bindings (severity? : Option String) (options? : Option (List Item)) : List Binding :=
  (style.fields severity? options?).map style.binding

/-- The value that an entry is. -/
def value : Entry → Value
  | .flag b => .boolean b
  | .list items => .list (items.map Item.toValue)
  | .table severity? options? => .table ((style.bindings severity? options?).map Binding.entry)

/-! ## JSON -/

/-- A member of an object. -/
def member (b : Binding) : Text :=
  style.quoted b.key ++ (blanks style.padding ++ ':' :: (blanks style.gap ++ b.text))

/-- An object. -/
def object (members : List Binding) : Text :=
  style.enclose '\x7b' '\x7d' (members.map style.member)

/-- An entry as a JSON value. -/
def jsonValue : Entry → Text
  | .flag b => style.item (.boolean b)
  | .list items => style.list items
  | .table severity? options? => style.object (style.bindings severity? options?)

/-- The entry for the spacing rule in JSON. -/
def jsonRule (entry : Entry) : Binding :=
  ⟨ruleName, style.jsonValue entry, style.value entry⟩

/-- The table of rules in JSON. -/
def jsonRules (entry : Entry) : Binding :=
  ⟨"rules", style.object [style.jsonRule entry], .table [(ruleName, style.value entry)]⟩

/-- A JSON document with an entry for the spacing rule. -/
def jsonText (entry : Entry) : Text :=
  style.object [style.jsonRules entry]

/-! ## TOML -/

/-- A key with its value. -/
def assignment (b : Binding) : Text :=
  keyed b.key style.gap '=' (blanks style.gap ++ b.text)

/-- A table in braces. -/
def inlineTable (bindings : List Binding) : Text :=
  style.enclose '\x7b' '\x7d' (bindings.map style.assignment)

/-- An entry as a TOML value. -/
def tomlValue : Entry → Text
  | .flag b => style.item (.boolean b)
  | .list items => style.list items
  | .table severity? options? => style.inlineTable (style.bindings severity? options?)

/-- The entry for the spacing rule in TOML. -/
def tomlRule (entry : Entry) : Binding :=
  ⟨ruleName, style.tomlValue entry, style.value entry⟩

/-- Keys with their values, a line each. -/
def assignmentLines (bindings : List Binding) : Text :=
  bindings.flatMap fun b => style.assignment b ++ ['\n']

/-- A TOML document with the header of all rules, and an entry for the spacing rule below it. -/
def tomlRulesText (entry : Entry) : Text :=
  '[' :: (blanks style.padding ++ keyed "rules" style.padding ']'
    ('\n' :: style.assignmentLines [style.tomlRule entry]))

/-- A TOML document with a header for the spacing rule, and the fields of its table below it. -/
def tomlTableText (severity? : Option String) (options? : Option (List Item)) : Text :=
  '[' :: (blanks style.padding ++ keyed "rules" style.padding '.'
    (blanks style.padding ++ keyed ruleName style.padding ']'
      ('\n' :: style.assignmentLines (style.bindings severity? options?))))

/-- A TOML document with an entry for the spacing rule. -/
def tomlText (entry : Entry) : Text :=
  match style.ownHeader, entry with
  | true, .table severity? options? => style.tomlTableText severity? options?
  | _, _ => style.tomlRulesText entry

/-! ## Where tokens begin and end -/

variable {style}

theorem toNat_lt_of_escapes {c : Char} (h : style.escapes c = true) : c.toNat < 0x10000 := by
  simp only [escapes, needsEscape, Bool.or_eq_true, beq_iff_eq, Bool.and_eq_true,
    decide_eq_true_eq] at h
  rcases h with (((rfl | rfl) | hcontrol) | hdelete) | ⟨-, hlt⟩
  · decide
  · decide
  · omega
  · omega
  · exact hlt

theorem needsEscape_eq_false {c : Char} (h : style.escapes c = false) : needsEscape c = false :=
  (Bool.or_eq_false_iff.1 h).1

/-- A table has no field twice. -/
theorem nodup_keys_bindings (style : Style) (severity? : Option String)
    (options? : Option (List Item)) :
    ((style.bindings severity? options?).map Binding.key).Nodup := by
  unfold bindings fields
  cases severity? <;> cases options? <;> split <;> simp [binding, Field.key]

theorem length_character_pos (style : Style) (c : Char) : 0 < (style.character c).length := by
  unfold character
  split <;> simp [numbered]

theorem length_toList_le (style : Style) (s : String) :
    s.toList.length ≤ (style.characters s).length := by
  unfold characters
  induction s.toList with
  | nil => exact Nat.le_refl 0
  | cons c rest ih =>
    have hpos := style.length_character_pos c
    rw [List.flatMap_cons, List.length_append, List.length_cons]
    omega

theorem length_tail_pos (style : Style) (closing : Char) (parts : List Text) :
    0 < (style.tail closing parts).length := by
  cases parts <;> simp [tail]

theorem tail_cons (style : Style) (closing : Char) (part : Text) (parts : List Text) :
    style.tail closing (part :: parts) = ',' :: style.body style.gap closing (part :: parts) :=
  rfl

theorem length_member_lt (style : Style) (b : Binding) :
    b.text.length < (style.member b).length := by
  simp only [member, List.length_append, List.length_cons]
  omega

theorem length_assignment_lt (style : Style) (b : Binding) :
    b.text.length < (style.assignment b).length := by
  simp only [assignment, keyed, List.length_append, List.length_cons]
  omega

end Style

/-- Whether an item can start with a character. -/
def startsItem (c : Char) : Bool :=
  c == 't' || c == 'f' || c == '-' || c == '"' || Decimal.isDigit c

theorem exists_toString_eq_cons (n : Int) :
    ∃ c rest, (toString n).toList = c :: rest ∧ startsItem c = true := by
  rw [Decimal.toList_toString]
  split
  · exact ⟨'-', _, rfl, rfl⟩
  · cases hdigits : Nat.toDigits 10 n.natAbs with
    | nil => exact absurd hdigits Nat.toDigits_ne_nil
    | cons c rest =>
      have hc : Decimal.isDigit c = true := Decimal.isDigit_of_mem_toDigits
        (by rw [hdigits]; exact List.mem_cons_self)
      exact ⟨c, rest, rfl, by simp [startsItem, hc]⟩

theorem Style.exists_item_eq_cons (style : Style) (i : Item) :
    ∃ c rest, style.item i = c :: rest ∧ startsItem c = true := by
  match i with
  | .boolean true => exact ⟨'t', _, rfl, rfl⟩
  | .boolean false => exact ⟨'f', _, rfl, rfl⟩
  | .string s => exact ⟨'"', _, rfl, rfl⟩
  | .integer n => exact exists_toString_eq_cons n.toInt

/-- A value is at its end: nothing comes behind it that could belong to it. -/
def EndsValue (rest : Text) : Prop :=
  ∀ c ∈ rest.head?, c ∈ [',', ']', '\x7d', ' ', '\n']

namespace EndsValue

variable {rest : Text}

theorem cons {c : Char} (h : c ∈ [',', ']', '\x7d', ' ', '\n']) (rest : Text) :
    EndsValue (c :: rest) := by
  intro d hd
  obtain rfl : c = d := by simpa using hd
  exact h

theorem blanks_append (h : EndsValue rest) (count : Nat) : EndsValue (blanks count ++ rest) := by
  unfold blanks
  cases count with
  | zero => exact h
  | succ count => exact cons (by decide) _

/-- The end of a list or a table, or a comma, follows on its parts. -/
theorem tail (style : Style) {closing : Char} (h : closing = ']' ∨ closing = '\x7d')
    (parts : List Text) (rest : Text) : EndsValue (style.tail closing parts ++ rest) := by
  cases parts with
  | nil =>
    rw [Style.tail, List.append_assoc]
    refine blanks_append (cons ?_ rest) style.padding
    obtain rfl | rfl := h <;> decide
  | cons part parts => exact cons (by decide) _

end EndsValue

end ClassSpacing.Config
