import ClassSpacing.Proofs.Toml.Tables

/-!
# Reading written documents in TOML

A document is read line by line: a header opens a table, and every key below it goes into that
table, `lines_assignments`. So a document with an entry for the spacing rule holds just that,
`parse?_tomlText`.
-/

namespace ClassSpacing.Toml

open Config (Style Item Entry Binding blanks keyed)

variable {style : Style} {rest : Text}

/-! ## Lines -/

/-- A table that stands at the end of a path: the whole tree is made from its entries, and changing
    it changes nothing else. -/
def StandsAt (path : List String) (tree : Entries → Entries) : Prop :=
  ∀ change entries, (tree entries).within change path = (change entries).map tree

theorem endLine?_newline (rest : Text) : endLine? ('\n' :: rest) = some rest :=
  rfl

/-- A statement is read to the end of its line, and then the other lines. -/
theorem lines_statement {state next : State} {c : Char} {t : Text} (hc : startsToken c = true)
    (h : statement? state (c :: t) = some (next, '\n' :: rest)) (fuel : Nat) :
    lines state (fuel + 1) (c :: t) = lines next fuel rest := by
  rw [lines, skipLines?_token hc]
  simp [h, endLine?_newline]

/-- A key with its value goes into the table opened last. -/
theorem statement?_assignment (style : Style) {state : State} {b : Binding} {root : Entries}
    (hkey : IsBareKey b.key) (hread : Reads depthLimit b.text b.value)
    (hroot : state.root.within (·.insert b.value [] b.key) state.current = some root)
    (rest : Text) :
    statement? state (style.assignment b ++ '\n' :: rest) =
      some ({ state with root }, '\n' :: rest) := by
  have hname : key? (style.assignment b ++ '\n' :: rest) =
      some (([], b.key), '=' :: (blanks style.gap ++ (b.text ++ '\n' :: rest))) := by
    rw [assignment_append]
    exact keyWithin?_keyed hkey _ (by decide) _ _
  have hequals := equals?_blanks style.gap hread.exists_eq_cons ('\n' :: rest)
  have hvalue := hread.value?_eq
    (2 * ('=' :: (blanks style.gap ++ (b.text ++ '\n' :: rest))).length + 2) ('\n' :: rest)
    (by simp only [List.length_cons, List.length_append]; omega) (.cons (by decide) rest)
  obtain ⟨c, start, hcons, hc⟩ := exists_assignment_eq_cons style hkey
  have hbracket : c ≠ '[' := by
    rintro rfl
    cases hc
  unfold statement?
  split
  · next heq =>
    rw [hcons, List.cons_append] at heq
    exact absurd (List.cons.inj heq).1 hbracket
  · next heq =>
    rw [hcons, List.cons_append] at heq
    exact absurd (List.cons.inj heq).1 hbracket
  · simp only [hname, hequals, hvalue, hroot, bind, Option.bind]
    rfl

/-- All keys go into the table opened last, in their order. -/
theorem lines_assignments (style : Style) {path : List String} {tree : Entries → Entries}
    (htree : StandsAt path tree) (bindings : List Binding)
    (hkeys : ∀ b ∈ bindings, IsBareKey b.key)
    (hread : ∀ b ∈ bindings, Reads depthLimit b.text b.value) (before : Entries)
    (hnodup : (before.map (·.1) ++ bindings.map Binding.key).Nodup) {fuel : Nat}
    (h : (style.assignmentLines bindings).length < fuel) :
    lines ⟨tree before, path⟩ fuel (style.assignmentLines bindings) =
      some ⟨tree (before ++ bindings.map nodeOf), path⟩ := by
  induction bindings generalizing before fuel with
  | nil =>
    obtain ⟨fuel, rfl⟩ : ∃ k, fuel = k + 1 := ⟨fuel - 1, by omega⟩
    rw [List.map_nil, List.append_nil]
    rfl
  | cons b more ih =>
    rw [List.forall_mem_cons] at hkeys hread
    obtain ⟨hinsert, hnext⟩ := insert_of_nodup hnodup
    have hroot : (tree before).within (·.insert b.value [] b.key) path =
        some (tree (before ++ [nodeOf b])) := by
      rw [htree, hinsert]
      rfl
    have hlines : style.assignmentLines (b :: more) =
        style.assignment b ++ '\n' :: style.assignmentLines more := by
      simp [Style.assignmentLines]
    have hstatement : statement? ⟨tree before, path⟩ _ = some (⟨_, path⟩, _) :=
      statement?_assignment style hkeys.1 hread.1 hroot (style.assignmentLines more)
    rw [hlines, List.length_append, List.length_cons] at h
    obtain ⟨c, start, hcons, hc⟩ := exists_assignment_eq_cons style hkeys.1
    obtain ⟨fuel, rfl⟩ : ∃ k, fuel = k + 1 := ⟨fuel - 1, by omega⟩
    have hmore := ih hkeys.2 hread.2 _ hnext (show _ < fuel by omega)
    rw [hcons, List.cons_append] at hstatement
    rw [hlines, hcons, List.cons_append,
      lines_statement (of_isBareKeyCharacter hc).2.2 hstatement, hmore, List.append_assoc]
    rfl

/-! ## Documents -/

/-- A name in a header is read up to the bracket behind it. -/
theorem headerName?_of_key {name : List String × String} {t : Text}
    (h : key? (skipSpaces t) = some (name, ']' :: rest)) :
    headerName? [']'] t = some (name, rest) := by
  simp only [headerName?, h, bind, Option.bind]
  rfl

/-- A header opens its table. -/
theorem statement?_header {key : String} {gap : Nat} {mark : Char} {more : Text}
    {path : List String} {last : String} {root : Entries} (hkey : IsBareKey key)
    (hname : key? (keyed key gap mark more) = some ((path, last), ']' :: rest))
    (hroot : Entries.within (·.openTable last) path [] = some root) :
    statement? {} ('[' :: (blanks gap ++ keyed key gap mark more)) =
      some (⟨root, path ++ [last]⟩, rest) := by
  obtain ⟨c, start, hcons, hc⟩ := exists_keyed_eq_cons hkey gap mark more
  obtain ⟨hbracket, hspace, -⟩ := of_isBareKeyCharacter hc
  have hskip : skipSpaces (blanks gap ++ keyed key gap mark more) = keyed key gap mark more := by
    rw [hcons, skipSpaces_blanks_cons _ hspace]
  have hheader := headerName?_of_key (hskip.symm ▸ hname)
  unfold statement?
  split
  · next heq =>
    -- A second bracket would be what is left behind the blanks.
    rw [(List.cons.inj heq).2, hcons] at hskip
    obtain ⟨rfl, -⟩ := List.cons.inj hskip
    simp at hbracket
  · next heq =>
    rw [← (List.cons.inj heq).2, hheader]
    simp only [bind, Option.bind, hroot]
    rfl
  · next _ hno => exact absurd rfl (hno _)

/-- A document that starts with a bracket has no byte order mark. -/
theorem parse?_bracket (t : Text) :
    parse? ('[' :: t) =
      (lines {} (('[' :: t).length + 1) ('[' :: t)).map fun state => valuesOf state.root := by
  rw [Option.map_eq_bind]
  rfl

/-- A document with one header holds what stands below it. -/
theorem parse?_document (style : Style) {key : String} {gap : Nat} {mark : Char} {more : Text}
    {path : List String} {last : String} (tree : Entries → Entries) (hkey : IsBareKey key)
    (bindings : List Binding) (hname : key? (keyed key gap mark more) =
      some ((path, last), ']' :: '\n' :: style.assignmentLines bindings))
    (hroot : Entries.within (·.openTable last) path [] = some (tree []))
    (htree : StandsAt (path ++ [last]) tree) (hkeys : ∀ b ∈ bindings, IsBareKey b.key)
    (hnodup : (bindings.map Binding.key).Nodup)
    (hread : ∀ b ∈ bindings, Reads depthLimit b.text b.value)
    (hlength : (style.assignmentLines bindings).length ≤ more.length) :
    parse? ('[' :: (blanks gap ++ keyed key gap mark more)) =
      some (valuesOf (tree (bindings.map nodeOf))) := by
  have hheader := statement?_header hkey hname hroot
  have hlines : lines {} (('[' :: (blanks gap ++ keyed key gap mark more)).length + 1)
      ('[' :: (blanks gap ++ keyed key gap mark more)) =
        some ⟨tree (bindings.map nodeOf), path ++ [last]⟩ := by
    rw [lines_statement (by decide) hheader]
    refine lines_assignments style htree bindings hkeys hread [] hnodup ?_
    simp only [keyed, List.length_cons, List.length_append]
    omega
  rw [parse?_bracket, hlines]
  rfl

theorem isBareKey_rules : IsBareKey "rules" :=
  isBareKey_of_all "rules" (by decide) rfl

theorem isBareKey_ruleName : IsBareKey ruleName :=
  isBareKey_of_all ruleName (by decide) rfl

/-- A document with the header of all rules. -/
def rulesTree (entries : Entries) : Entries :=
  [("rules", .table .header entries)]

/-- A document with a header for the spacing rule. -/
def ruleTree (entries : Entries) : Entries :=
  [("rules", .table .implied [(ruleName, .table .header entries)])]

theorem standsAt_rulesTree : StandsAt ["rules"] rulesTree := by
  intro change entries
  cases hchange : change entries <;>
    simp [rulesTree, Entries.within, Entries.find?, Entries.set, hchange]

theorem standsAt_ruleTree : StandsAt ["rules", ruleName] ruleTree := by
  intro change entries
  cases hchange : change entries <;>
    simp [ruleTree, Entries.within, Entries.find?, Entries.set, hchange]

theorem parse?_tomlRulesText (style : Style) (entry : Entry) :
    parse? (style.tomlRulesText entry) =
      some [("rules", .table [(ruleName, style.value entry)])] := by
  refine parse?_document style rulesTree isBareKey_rules [style.tomlRule entry]
    (keyWithin?_keyed isBareKey_rules _ (by decide) _ _) rfl standsAt_rulesTree ?_ (by simp) ?_
    (by simp)
  · rw [List.forall_mem_singleton]
    exact isBareKey_ruleName
  · rw [List.forall_mem_singleton]
    exact reads_tomlValue style (by decide) entry

theorem parse?_tomlTableText (style : Style) (severity? : Option String)
    (options? : Option (List Item)) :
    parse? (style.tomlTableText severity? options?) =
      some [("rules", .table [(ruleName, style.value (.table severity? options?))])] := by
  have hparse := parse?_document style ruleTree isBareKey_rules (style.bindings severity? options?)
    (keyWithin?_dotted isBareKey_rules isBareKey_ruleName style.padding (by decide) _ _) rfl
    standsAt_ruleTree (fun b hb => isBareKey_of_mem_bindings hb)
    (style.nodup_keys_bindings severity? options?)
    (fun b hb => reads_of_mem_bindings (by decide) hb)
    (by simp only [keyed, List.length_append, List.length_cons]; omega)
  rw [Style.tomlTableText, hparse]
  simp [ruleTree, valuesOf, Node.toValue, valuesOf_map_nodeOf, Style.value]

/-- A document with an entry for the spacing rule holds just that. -/
theorem parse?_tomlText (style : Style) (entry : Entry) :
    parse? (style.tomlText entry) = some [("rules", .table [(ruleName, style.value entry)])] := by
  unfold Style.tomlText
  split
  · exact parse?_tomlTableText style _ _
  · exact parse?_tomlRulesText style _

end ClassSpacing.Toml
