import ClassSpacing.Proofs.Toml.Items

/-!
# Reading written lists and tables in TOML

Lists and tables in braces are read part by part, up to their end. Keys are bare, and a table has
none of them twice.
-/

namespace ClassSpacing.Toml

open Config (Style Item Entry Binding EndsValue blanks keyed)

variable {style : Style} {rest : Text}

/-! ## Lists -/

theorem skipSpaces_blanks (count : Nat) (t : Text) :
    skipSpaces (blanks count ++ t) = skipSpaces t := by
  unfold blanks skipSpaces
  induction count with
  | zero => rfl
  | succ count ih => exact ih

theorem skipSpaces_blanks_cons (count : Nat) {c : Char} (hc : isSpaceOrTab c = false) (t : Text) :
    skipSpaces (blanks count ++ c :: t) = c :: t := by
  rw [skipSpaces_blanks]
  simp [skipSpaces, hc]

/-- Blanks before a token are skipped, and nothing else. -/
theorem skipLines?_blanks (count : Nat) {c : Char} (hc : startsToken c = true) (fuel : Nat)
    (t : Text) : skipLines? (fuel + 1) (blanks count ++ c :: t) = some (c :: t) := by
  simp only [startsToken, Bool.not_eq_true', Bool.or_eq_false_iff, beq_eq_false_iff_ne] at hc
  obtain ⟨⟨⟨hspace, hcomment⟩, hfeed⟩, hreturn⟩ := hc
  have hbreak : afterLineBreak? (c :: t) = none := by
    unfold afterLineBreak?
    split
    · next heq => exact absurd (List.cons.inj heq).1 hfeed
    · next heq => exact absurd (List.cons.inj heq).1 hreturn
    · rfl
  unfold skipLines?
  rw [skipSpaces_blanks_cons count hspace]
  split
  · next heq => exact absurd (List.cons.inj heq).1 hcomment
  · rw [hbreak]

theorem skipLines?_token {c : Char} (hc : startsToken c = true) (fuel : Nat) (t : Text) :
    skipLines? (fuel + 1) (c :: t) = some (c :: t) :=
  skipLines?_blanks 0 hc fuel t

/-- An item is read, and then the end of the list, or a comma and other items. -/
theorem items?_item {fuel depth : Nat} {c : Char} {t start tail : Text} {v : Value}
    {vs : List Value} (hstart : skipLines? (t.length + 1) t = some (c :: start)) (hc : c ≠ ']')
    (hvalue : value? fuel depth (c :: start) = some (v, tail))
    (hmore : (skipLines? (tail.length + 1) tail = some (']' :: rest) ∧ vs = []) ∨
      ∃ more, skipLines? (tail.length + 1) tail = some (',' :: more) ∧
        items? fuel depth more = some (vs, rest)) :
    items? (fuel + 1) depth t = some (v :: vs, rest) := by
  unfold items?
  simp only [hstart, bind, Option.bind]
  split
  · next heq => exact absurd (List.cons.inj heq).1 hc
  · obtain ⟨hend, rfl⟩ | ⟨more, hcomma, hitems⟩ := hmore
    · simp [hvalue, hend]
    · simp [hvalue, hcomma, hitems]

/-- The items of a list are read up to its end. -/
theorem items?_body (style : Style) (written : List Item) (lead : Nat) {fuel : Nat} (depth : Nat)
    (h : (style.body lead ']' (written.map style.item)).length ≤ fuel) (rest : Text) :
    items? fuel depth (style.body lead ']' (written.map style.item) ++ rest) =
      some (written.map Item.toValue, rest) := by
  induction written generalizing lead fuel with
  | nil =>
    simp only [List.map_nil, Style.body, List.append_assoc, List.length_append] at h ⊢
    obtain ⟨fuel, rfl⟩ : ∃ k, fuel = k + 1 := ⟨fuel - 1, by simp at h; omega⟩
    rw [items?, List.singleton_append, skipLines?_blanks _ (by decide)]
    rfl
  | cons i more ih =>
    obtain ⟨c, t, hitem, hc⟩ := style.exists_item_eq_cons i
    have hlength : (style.item i).length = t.length + 1 := by rw [hitem, List.length_cons]
    have hpos := style.length_tail_pos ']' (more.map style.item)
    simp only [List.map_cons, Style.body, List.append_assoc, List.length_append] at h ⊢
    obtain ⟨fuel, rfl⟩ : ∃ k, fuel = k + 2 := ⟨fuel - 2, by omega⟩
    have hvalue := value?_item style i fuel depth
      (EndsValue.tail style (.inl rfl) (more.map style.item) rest)
    have hclosing : c ≠ ']' := by
      rintro rfl
      cases hc
    rw [hitem] at hvalue ⊢
    refine items?_item (skipLines?_blanks _ (startsToken_of_startsItem hc) _ _) hclosing hvalue ?_
    cases more with
    | nil =>
      refine .inl ⟨?_, rfl⟩
      rw [List.map_nil, Style.tail, List.append_assoc]
      exact skipLines?_blanks _ (by decide) _ rest
    | cons j more =>
      rw [List.map_cons, Style.tail_cons, List.length_cons] at h
      exact .inr ⟨_, skipLines?_token (by decide) _ _, ih _ (by rw [List.map_cons]; omega)⟩

theorem reads_list (style : Style) {depth : Nat} (hdepth : depth ≠ 0) (written : List Item) :
    Reads depth (style.list written) (.list (written.map Item.toValue)) := by
  refine ⟨⟨'[', _, rfl, rfl⟩, fun fuel rest hfuel _ => ?_⟩
  simp only [Style.list, Style.enclose, List.length_cons, List.cons_append] at hfuel ⊢
  obtain ⟨fuel, rfl⟩ : ∃ k, fuel = k + 1 := ⟨fuel - 1, by omega⟩
  have hitems :=
    items?_body style written style.padding (depth - 1) (Nat.le_of_succ_le_succ hfuel) rest
  simp [value?, hdepth, hitems]

/-! ## Keys -/

/-- A key can be written without quotes. -/
def IsBareKey (key : String) : Prop :=
  key.toList ≠ [] ∧ ∀ c ∈ key.toList, isBareKeyCharacter c = true

theorem isBareKey_of_all (key : String) (hne : key ≠ "")
    (hall : key.toList.all isBareKeyCharacter = true) : IsBareKey key :=
  ⟨by simpa using hne, List.all_eq_true.1 hall⟩

theorem exists_keyed_eq_cons {key : String} (hkey : IsBareKey key) (gap : Nat) (mark : Char)
    (rest : Text) :
    ∃ c t, keyed key gap mark rest = c :: t ∧ isBareKeyCharacter c = true := by
  obtain ⟨hne, hbare⟩ := hkey
  cases hchars : key.toList with
  | nil => exact absurd hchars hne
  | cons c t =>
    refine ⟨c, _, by rw [keyed, hchars, List.cons_append], hbare c ?_⟩
    rw [hchars]
    exact List.mem_cons_self

/-- The characters of bare keys are no others. -/
theorem of_isBareKeyCharacter {c : Char} (h : isBareKeyCharacter c = true) :
    c ∉ ['"', '\'', '['] ∧ isSpaceOrTab c = false ∧ startsToken c = true := by
  refine ⟨?_, ?_, ?_⟩
  · intro hmem
    simp only [List.mem_cons, List.not_mem_nil, or_false] at hmem
    rcases hmem with rfl | rfl | rfl <;> cases h
  · rw [Bool.eq_false_iff]
    intro hspace
    simp only [isSpaceOrTab, Bool.or_eq_true, beq_iff_eq] at hspace
    rcases hspace with rfl | rfl <;> cases h
  · rw [startsToken, Bool.not_eq_true', Bool.eq_false_iff]
    intro hblank
    simp only [isSpaceOrTab, Bool.or_eq_true, beq_iff_eq] at hblank
    obtain (((rfl | rfl) | rfl) | rfl) | rfl := hblank <;> cases h

/-- A bare key ends before a blank or a mark. -/
theorem simpleKey?_keyed {key : String} (hkey : IsBareKey key) (gap : Nat) {mark : Char}
    (hmark : isBareKeyCharacter mark = false) (rest : Text) :
    simpleKey? (keyed key gap mark rest) = some (key, blanks gap ++ mark :: rest) := by
  have hstop : (blanks gap ++ mark :: rest).takeWhile isBareKeyCharacter = [] := by
    unfold blanks
    cases gap with
    | zero => simp [hmark]
    | succ gap => rfl
  have htake : (keyed key gap mark rest).takeWhile isBareKeyCharacter = key.toList := by
    rw [keyed, List.takeWhile_append_of_pos hkey.2, hstop, List.append_nil]
  obtain ⟨c, t, hcons, hc⟩ := exists_keyed_eq_cons hkey gap mark rest
  have hquotes := (of_isBareKeyCharacter hc).1
  unfold simpleKey?
  split
  · next heq =>
    obtain ⟨rfl, -⟩ := List.cons.inj (hcons.symm.trans heq)
    simp at hquotes
  · next heq =>
    obtain ⟨rfl, -⟩ := List.cons.inj (hcons.symm.trans heq)
    simp at hquotes
  · rw [htake, if_neg (by simpa using hkey.1), keyed, List.drop_left, String.ofList_toList]

/-- A key is read up to the mark behind it. -/
theorem keyWithin?_keyed {key : String} (hkey : IsBareKey key) (gap : Nat) {mark : Char}
    (hmark : isBareKeyCharacter mark = false ∧ isSpaceOrTab mark = false ∧ mark ≠ '.')
    (depth : Nat) (rest : Text) :
    keyWithin? (depth + 1) (keyed key gap mark rest) = some (([], key), mark :: rest) := by
  obtain ⟨hbare, hspace, hdot⟩ := hmark
  simp only [keyWithin?, simpleKey?_keyed hkey gap hbare, bind, Option.bind,
    skipSpaces_blanks_cons _ hspace]
  split
  · next heq => exact absurd (List.cons.inj heq).1 hdot
  · rfl

/-- So is a dotted key of two parts. -/
theorem keyWithin?_dotted {part key : String} (hpart : IsBareKey part) (hkey : IsBareKey key)
    (gap : Nat) {mark : Char}
    (hmark : isBareKeyCharacter mark = false ∧ isSpaceOrTab mark = false ∧ mark ≠ '.')
    (depth : Nat) (rest : Text) :
    keyWithin? (depth + 2)
      (keyed part gap '.' (blanks gap ++ keyed key gap mark rest)) =
        some (([part], key), mark :: rest) := by
  obtain ⟨c, t, hcons, hc⟩ := exists_keyed_eq_cons hkey gap mark rest
  have hread := keyWithin?_keyed hkey gap hmark depth rest
  have hskip : skipSpaces (blanks gap ++ keyed key gap mark rest) =
      keyed key gap mark rest := by
    rw [hcons, skipSpaces_blanks_cons _ (of_isBareKeyCharacter hc).2.1]
  rw [keyWithin?, simpleKey?_keyed hpart gap (by decide)]
  simp only [bind, Option.bind, skipSpaces_blanks_cons _ (show isSpaceOrTab '.' = false from rfl),
    hskip, hread]
  rfl

/-- The sign behind a key and the blanks around it are skipped. -/
theorem equals?_blanks (count : Nat) {t : Text}
    (ht : ∃ c rest, t = c :: rest ∧ startsToken c = true) (rest : Text) :
    equals? ('=' :: (blanks count ++ (t ++ rest))) = some (t ++ rest) := by
  obtain ⟨c, start, rfl, hc⟩ := ht
  simp only [startsToken, Bool.not_eq_true', Bool.or_eq_false_iff] at hc
  rw [equals?, skipSpaces, List.dropWhile_cons_of_neg (by decide)]
  exact congrArg some (skipSpaces_blanks_cons _ hc.1.1.1 _)

/-! ## Tables -/

/-- The node of a binding. -/
def nodeOf (b : Binding) : String × Node :=
  (b.key, .value b.value)

theorem valuesOf_map_nodeOf (bindings : List Binding) :
    valuesOf (bindings.map nodeOf) = bindings.map Binding.entry := by
  induction bindings with
  | nil => rfl
  | cons b more ih =>
    rw [List.map_cons, List.map_cons, ← ih]
    rfl

theorem find?_eq_none {entries : Entries} {key : String} (h : key ∉ entries.map (·.1)) :
    entries.find? key = none := by
  rw [Entries.find?, List.lookup_eq_none_iff]
  intro entry hentry
  simp only [bne_iff_ne]
  rintro rfl
  exact h (List.mem_map.2 ⟨entry, hentry, rfl⟩)

theorem set_of_notMem {entries : Entries} {key : String} (h : key ∉ entries.map (·.1))
    (node : Node) : entries.set key node = entries ++ [(key, node)] := by
  induction entries with
  | nil => rfl
  | cons entry more ih =>
    obtain ⟨k, n⟩ := entry
    rw [List.map_cons, List.mem_cons, not_or] at h
    rw [Entries.set, if_neg (Ne.symm h.1), ih h.2, List.cons_append]

/-- A new key is added behind the others, and those still to come stay new. -/
theorem insert_of_nodup {before : Entries} {b : Binding} {more : List Binding}
    (h : (before.map (·.1) ++ (b :: more).map Binding.key).Nodup) :
    before.insert b.value [] b.key = some (before ++ [nodeOf b]) ∧
      ((before ++ [nodeOf b]).map (·.1) ++ more.map Binding.key).Nodup := by
  have hnew : b.key ∉ before.map (·.1) := by
    intro hmem
    exact (List.nodup_append.1 h).2.2 _ hmem _ List.mem_cons_self rfl
  refine ⟨?_, by simpa [nodeOf] using h⟩
  rw [Entries.insert, find?_eq_none hnew, set_of_notMem hnew]
  rfl

theorem assignment_append (style : Style) (b : Binding) (rest : Text) :
    style.assignment b ++ rest =
      keyed b.key style.gap '=' (blanks style.gap ++ (b.text ++ rest)) := by
  simp [Style.assignment, keyed]

theorem exists_assignment_eq_cons (style : Style) {b : Binding} (hkey : IsBareKey b.key) :
    ∃ c t, style.assignment b = c :: t ∧ isBareKeyCharacter c = true :=
  exists_keyed_eq_cons hkey style.gap '=' _

/-- A key with its value is read, and then the end of the table, or a comma and other keys. -/
theorem entries?_binding (style : Style) {fuel depth : Nat} {before entries inserted : Entries}
    {b : Binding} {t tail : Text} (hkey : IsBareKey b.key) (hread : Reads depth b.text b.value)
    (hstart : skipLines? (t.length + 1) t = some (style.assignment b ++ tail))
    (hfuel : b.text.length ≤ fuel) (htail : EndsValue tail)
    (hinsert : before.insert b.value [] b.key = some inserted)
    (hmore : (skipLines? (tail.length + 1) tail = some ('\x7d' :: rest) ∧ entries = inserted) ∨
      ∃ more, skipLines? (tail.length + 1) tail = some (',' :: more) ∧
        entries? fuel depth inserted more = some (entries, rest)) :
    entries? (fuel + 1) depth before t = some (entries, rest) := by
  have hread' : key? (style.assignment b ++ tail) =
      some (([], b.key), '=' :: (blanks style.gap ++ (b.text ++ tail))) := by
    rw [assignment_append]
    exact keyWithin?_keyed hkey _ (by decide) _ _
  have hequals := equals?_blanks style.gap hread.exists_eq_cons tail
  have hvalue := hread.value?_eq fuel tail hfuel htail
  obtain ⟨c, start, hcons, hc⟩ := exists_assignment_eq_cons style hkey
  have hbrace : c ≠ '\x7d' := by
    rintro rfl
    cases hc
  unfold entries?
  simp only [hstart, bind, Option.bind]
  split
  · next heq =>
    rw [hcons, List.cons_append] at heq
    exact absurd (List.cons.inj heq).1 hbrace
  · obtain ⟨hend, rfl⟩ | ⟨more, hcomma, hentries⟩ := hmore
    · simp [hread', hequals, hvalue, hinsert, hend]
    · simp [hread', hequals, hvalue, hinsert, hcomma, hentries]

/-- The keys of a table in braces are read up to its end, and added to those before. -/
theorem entries?_body (style : Style) {depth : Nat} (bindings : List Binding)
    (hkeys : ∀ b ∈ bindings, IsBareKey b.key)
    (hread : ∀ b ∈ bindings, Reads depth b.text b.value) (before : Entries)
    (hnodup : (before.map (·.1) ++ bindings.map Binding.key).Nodup) (lead : Nat) {fuel : Nat}
    (h : (style.body lead '\x7d' (bindings.map style.assignment)).length ≤ fuel) (rest : Text) :
    entries? fuel depth before (style.body lead '\x7d' (bindings.map style.assignment) ++ rest) =
      some (before ++ bindings.map nodeOf, rest) := by
  induction bindings generalizing before lead fuel with
  | nil =>
    simp only [List.map_nil, Style.body, List.append_assoc, List.length_append] at h ⊢
    obtain ⟨fuel, rfl⟩ : ∃ k, fuel = k + 1 := ⟨fuel - 1, by simp at h; omega⟩
    rw [entries?, List.singleton_append, skipLines?_blanks _ (by decide), List.append_nil]
    rfl
  | cons b more ih =>
    rw [List.forall_mem_cons] at hkeys hread
    have hlength := style.length_assignment_lt b
    have hpos := style.length_tail_pos '\x7d' (more.map style.assignment)
    obtain ⟨hinsert, hnext⟩ := insert_of_nodup hnodup
    obtain ⟨c, start, hcons, hc⟩ := exists_assignment_eq_cons style hkeys.1
    simp only [List.map_cons, Style.body, List.append_assoc, List.length_append] at h ⊢
    obtain ⟨fuel, rfl⟩ : ∃ k, fuel = k + 1 := ⟨fuel - 1, by omega⟩
    refine entries?_binding style hkeys.1 hread.1 ?_ (by omega)
      (.tail style (.inr rfl) (more.map style.assignment) rest) hinsert ?_
    · rw [hcons]
      exact skipLines?_blanks _ (of_isBareKeyCharacter hc).2.2 _ _
    · cases more with
      | nil =>
        refine .inl ⟨?_, rfl⟩
        rw [List.map_nil, Style.tail, List.append_assoc]
        exact skipLines?_blanks _ (by decide) _ rest
      | cons b' more =>
        rw [List.map_cons, Style.tail_cons, List.length_cons] at h
        have hfuel : (style.body style.gap '\x7d'
            ((b' :: more).map style.assignment)).length ≤ fuel := by
          rw [List.map_cons]
          omega
        have hmore := ih hkeys.2 hread.2 _ hnext _ hfuel
        rw [List.append_assoc] at hmore
        exact .inr ⟨_, skipLines?_token (by decide) _ _, hmore⟩

theorem reads_inlineTable (style : Style) {depth : Nat} (hdepth : depth ≠ 0)
    (bindings : List Binding) (hkeys : ∀ b ∈ bindings, IsBareKey b.key)
    (hnodup : (bindings.map Binding.key).Nodup)
    (hread : ∀ b ∈ bindings, Reads (depth - 1) b.text b.value) :
    Reads depth (style.inlineTable bindings) (.table (bindings.map Binding.entry)) := by
  refine ⟨⟨'\x7b', _, rfl, rfl⟩, fun fuel rest hfuel _ => ?_⟩
  simp only [Style.inlineTable, Style.enclose, List.length_cons, List.cons_append] at hfuel ⊢
  obtain ⟨fuel, rfl⟩ : ∃ k, fuel = k + 1 := ⟨fuel - 1, by omega⟩
  have hentries : entries? fuel (depth - 1) [] _ = some (bindings.map nodeOf, rest) :=
    entries?_body style bindings hkeys hread [] hnodup style.padding
      (Nat.le_of_succ_le_succ hfuel) rest
  simp [value?, hdepth, hentries, valuesOf_map_nodeOf]

variable {severity? : Option String} {options? : Option (List Item)} {b : Binding}

theorem isBareKey_of_mem_bindings (h : b ∈ style.bindings severity? options?) :
    IsBareKey b.key := by
  obtain ⟨f, -, rfl⟩ := List.mem_map.1 h
  cases f with
  | severity s => exact isBareKey_of_all "severity" (by decide) rfl
  | options items => exact isBareKey_of_all "options" (by decide) rfl

theorem reads_of_mem_bindings {depth : Nat} (hdepth : depth ≠ 0)
    (h : b ∈ style.bindings severity? options?) : Reads depth b.text b.value := by
  obtain ⟨f, -, rfl⟩ := List.mem_map.1 h
  cases f with
  | severity s => exact reads_item style depth (.string s)
  | options written => exact reads_list style hdepth written

theorem reads_tomlValue (style : Style) {depth : Nat} (hdepth : 1 < depth) (entry : Entry) :
    Reads depth (style.tomlValue entry) (style.value entry) := by
  cases entry with
  | flag b => exact reads_item style depth (.boolean b)
  | list written => exact reads_list style (by omega) written
  | table severity? options? =>
    exact reads_inlineTable style (by omega) _ (fun b hb => isBareKey_of_mem_bindings hb)
      (style.nodup_keys_bindings severity? options?)
      fun b hb => reads_of_mem_bindings (by omega) hb

end ClassSpacing.Toml
