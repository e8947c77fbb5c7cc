import ClassSpacing.Proofs.Json.Items

/-!
# Reading written documents in JSON

Lists and objects are read part by part, up to their end. So a document with an entry for the
spacing rule holds just that, `ofJson_jsonText`.
-/

namespace ClassSpacing.Json

open Config (Style Item Field Entry Binding EndsValue blanks startsItem)

variable {rest : Text}

/-! ## Between tokens -/

theorem skipBlanks_append {b : Text} (h : ∀ c ∈ b, isSeparator c = true) (t : Text) :
    skipBlanks (b ++ t) = skipBlanks t :=
  List.dropWhile_append_of_pos h

theorem skipBlanks_blanks (count : Nat) (t : Text) :
    skipBlanks (blanks count ++ t) = skipBlanks t := by
  refine skipBlanks_append (fun c hc => ?_) t
  rw [List.eq_of_mem_replicate hc]
  rfl

theorem skipBlanks_cons {c : Char} (h : isSeparator c = false) (t : Text) :
    skipBlanks (c :: t) = c :: t := by
  simp [skipBlanks, h]

theorem skipBlanks_blanks_cons (count : Nat) {c : Char} (h : isSeparator c = false) (t : Text) :
    skipBlanks (blanks count ++ c :: t) = c :: t := by
  rw [skipBlanks_blanks, skipBlanks_cons h]

theorem skipBlanks_closing (count : Nat) {c : Char} (h : isSeparator c = false) (t : Text) :
    skipBlanks (blanks count ++ [c] ++ t) = c :: t := by
  rw [List.append_assoc]
  exact skipBlanks_blanks_cons count h t

theorem colon_blanks (count : Nat) (t : Text) : colon (blanks count ++ ':' :: t) = .ok t := by
  rw [colon, skipBlanks_blanks]
  rfl

theorem value_blanks (count fuel depth : Nat) (t : Text) :
    value (fuel + 1) depth (blanks count ++ t) = value (fuel + 1) depth t := by
  rw [value, value, skipBlanks_blanks]

/-! ## Values -/

/-- A text reads as a value, up to whatever may follow on a value. -/
def Reads (depth : Nat) (t : Text) (v : Value) : Prop :=
  ∀ fuel rest, t.length ≤ fuel → EndsValue rest → value fuel depth (t ++ rest) = .ok (v, rest)

/-- A text starts like a value: neither with a blank nor with the end of a list. -/
def StartsValue (t : Text) : Prop :=
  ∃ c rest, t = c :: rest ∧ isSeparator c = false ∧ c ≠ ']'

theorem StartsValue.cons {c : Char} (h : isSeparator c = false ∧ c ≠ ']') (t : Text) :
    StartsValue (c :: t) :=
  ⟨c, t, rfl, h⟩

theorem StartsValue.append {t : Text} (h : StartsValue t) (u : Text) : StartsValue (t ++ u) := by
  obtain ⟨c, rest, rfl, hc⟩ := h
  exact ⟨c, rest ++ u, rfl, hc⟩

theorem StartsValue.skipBlanks_eq {t : Text} (h : StartsValue t) : skipBlanks t = t := by
  obtain ⟨c, rest, rfl, hc, -⟩ := h
  exact skipBlanks_cons hc rest

theorem StartsValue.length_pos {t : Text} (h : StartsValue t) : 0 < t.length := by
  obtain ⟨c, rest, rfl, -⟩ := h
  exact Nat.succ_pos _

/-- A text that starts like neither a list nor an object is read as a scalar. -/
theorem reads_of_scalar {depth : Nat} {c : Char} {t : Text} {v : Value}
    (hstart : isSeparator c = false) (hlist : c ≠ '[') (htable : c ≠ '\x7b')
    (hscalar : ∀ rest, EndsValue rest → scalar (c :: t ++ rest) = .ok (v, rest)) :
    Reads depth (c :: t) v := by
  intro fuel rest hfuel hrest
  obtain ⟨fuel, rfl⟩ : ∃ k, fuel = k + 1 := ⟨fuel - 1, by rw [List.length_cons] at hfuel; omega⟩
  have hread := hscalar rest hrest
  rw [List.cons_append] at hread ⊢
  unfold value
  rw [skipBlanks_cons hstart]
  split
  · next heq => cases heq
  · next heq => exact absurd (List.cons.inj heq).1 hlist
  · next heq => exact absurd (List.cons.inj heq).1 htable
  · exact hread

/-- The characters that items start with are no others. -/
theorem of_startsItem {c : Char} (h : startsItem c = true) :
    isSeparator c = false ∧ c ≠ ']' ∧ c ≠ '[' ∧ c ≠ '\x7b' := by
  refine ⟨?_, ?_, ?_, ?_⟩
  · rw [Bool.eq_false_iff]
    intro hseparator
    simp only [isSeparator, Bool.or_eq_true, beq_iff_eq] at hseparator
    obtain ((rfl | rfl) | rfl) | rfl := hseparator <;> cases h
  all_goals
    rintro rfl
    cases h

theorem startsValue_of_startsItem {t : Text}
    (h : ∃ c rest, t = c :: rest ∧ startsItem c = true) : StartsValue t := by
  obtain ⟨c, rest, rfl, hc⟩ := h
  obtain ⟨hseparator, hend, -, -⟩ := of_startsItem hc
  exact .cons ⟨hseparator, hend⟩ rest

theorem reads_of_startsItem {depth : Nat} {t : Text} {v : Value}
    (hstart : ∃ c rest, t = c :: rest ∧ startsItem c = true)
    (hscalar : ∀ rest, EndsValue rest → scalar (t ++ rest) = .ok (v, rest)) : Reads depth t v := by
  obtain ⟨c, rest, rfl, hc⟩ := hstart
  obtain ⟨hseparator, -, hlist, htable⟩ := of_startsItem hc
  exact reads_of_scalar hseparator hlist htable hscalar

theorem reads_item (style : Style) (depth : Nat) (i : Item) :
    Reads depth (style.item i) i.toValue :=
  reads_of_startsItem (style.exists_item_eq_cons i) fun _ hrest => scalar_item style i hrest

/-! ## Lists -/

theorem nextItem_end {t : Text} (first : Bool) (h : skipBlanks t = ']' :: rest) :
    nextItem first t = .ok (.inr rest) := by
  rw [nextItem, h]
  rfl

theorem nextItem_comma (t : Text) :
    nextItem false (',' :: t) =
      match skipBlanks t with
      | [] => .error (.here .endInValue [])
      | ']' :: after => .error (.ahead .trailingComma (']' :: after))
      | t => .ok (.inl t) :=
  rfl

/-- A value is the first item of a list behind blanks, and another one behind a comma, too. -/
theorem nextItem_of_skipBlanks {t u : Text} (h : skipBlanks t = u) (hstart : StartsValue u) :
    nextItem true t = .ok (.inl u) ∧ nextItem false (',' :: t) = .ok (.inl u) := by
  obtain ⟨c, rest, rfl, -, hend⟩ := hstart
  constructor
  · simp only [nextItem, h, if_true]
  · rw [nextItem_comma, h]
    split
    · next heq => cases heq
    · next heq => exact absurd (List.cons.inj heq).1 hend
    · rfl

theorem items_end {fuel : Nat} (hfuel : 0 < fuel) (depth : Nat) (first : Bool) {t : Text}
    (h : skipBlanks t = ']' :: rest) : items fuel depth first t = .ok ([], rest) := by
  obtain ⟨fuel, rfl⟩ : ∃ k, fuel = k + 1 := ⟨fuel - 1, by omega⟩
  rw [items, nextItem_end first h]
  rfl

/-- An item of a list is read, and the others behind it. -/
theorem items_value {fuel depth : Nat} {first : Bool} {t u tail : Text} {v : Value}
    {vs : List Value} (hnext : nextItem first t = .ok (.inl (u ++ tail))) (hread : Reads depth u v)
    (hfuel : u.length ≤ fuel) (htail : EndsValue tail)
    (hmore : items fuel depth false tail = .ok (vs, rest)) :
    items (fuel + 1) depth first t = .ok (v :: vs, rest) := by
  rw [items, hnext]
  simp only [bind, Except.bind, hread fuel tail hfuel htail, hmore]
  rfl

/-- A list is read up to its end. -/
theorem reads_list_of_items {depth : Nat} (hdepth : 1 < depth) {t : Text} {vs : List Value}
    (hitems : ∀ fuel rest, t.length ≤ fuel →
      items fuel (depth - 1) true (t ++ rest) = .ok (vs, rest)) :
    Reads depth ('[' :: t) (.list vs) := by
  intro fuel rest hfuel _
  rw [List.length_cons] at hfuel
  obtain ⟨fuel, rfl⟩ : ∃ k, fuel = k + 1 := ⟨fuel - 1, by omega⟩
  rw [List.cons_append, value, skipBlanks_cons (by decide)]
  simp only [if_neg (Nat.not_le.2 hdepth), hitems fuel rest (by omega), bind, Except.bind]
  rfl

theorem nextItem_item (style : Style) (i : Item) (count : Nat) (t : Text) :
    nextItem true (blanks count ++ (style.item i ++ t)) = .ok (.inl (style.item i ++ t)) ∧
      nextItem false (',' :: (blanks count ++ (style.item i ++ t))) =
        .ok (.inl (style.item i ++ t)) := by
  have hstart := (startsValue_of_startsItem (style.exists_item_eq_cons i)).append t
  refine nextItem_of_skipBlanks ?_ hstart
  rw [skipBlanks_blanks, hstart.skipBlanks_eq]

/-- The items of a list behind the first one are read up to its end. -/
theorem items_tail (style : Style) (written : List Item) {fuel : Nat} (depth : Nat)
    (h : (style.tail ']' (written.map style.item)).length ≤ fuel) (rest : Text) :
    items fuel depth false (style.tail ']' (written.map style.item) ++ rest) =
      .ok (written.map Item.toValue, rest) := by
  induction written generalizing fuel with
  | nil =>
    have hpos : 0 < fuel := Nat.lt_of_lt_of_le (by simp [Style.tail]) h
    exact items_end hpos depth false (skipBlanks_closing style.padding (by decide) rest)
  | cons i more ih =>
    have hpos := style.length_tail_pos ']' (more.map style.item)
    simp only [List.map_cons, Style.tail, List.cons_append, List.append_assoc, List.length_append,
      List.length_cons] at h ⊢
    obtain ⟨fuel, rfl⟩ : ∃ k, fuel = k + 1 := ⟨fuel - 1, by omega⟩
    exact items_value (nextItem_item style i _ _).2 (reads_item style depth i) (by omega)
      (.tail style (.inl rfl) _ rest) (ih (by omega))

/-- So are all items of a list. -/
theorem items_body (style : Style) (written : List Item) {fuel : Nat} (depth : Nat)
    (h : (style.body style.padding ']' (written.map style.item)).length ≤ fuel) (rest : Text) :
    items fuel depth true (style.body style.padding ']' (written.map style.item) ++ rest) =
      .ok (written.map Item.toValue, rest) := by
  cases written with
  | nil =>
    have hpos : 0 < fuel := Nat.lt_of_lt_of_le (by simp [Style.body]) h
    exact items_end hpos depth true (skipBlanks_closing style.padding (by decide) rest)
  | cons i more =>
    have hitem := (startsValue_of_startsItem (style.exists_item_eq_cons i)).length_pos
    have hpos := style.length_tail_pos ']' (more.map style.item)
    simp only [List.map_cons, Style.body, List.append_assoc, List.length_append] at h ⊢
    obtain ⟨fuel, rfl⟩ : ∃ k, fuel = k + 1 := ⟨fuel - 1, by omega⟩
    exact items_value (nextItem_item style i _ _).1 (reads_item style depth i) (by omega)
      (.tail style (.inl rfl) _ rest) (items_tail style more depth (by omega) rest)

theorem reads_list (style : Style) {depth : Nat} (hdepth : 1 < depth) (written : List Item) :
    Reads depth (style.list written) (.list (written.map Item.toValue)) :=
  reads_list_of_items hdepth fun _ rest hfuel => items_body style written (depth - 1) hfuel rest

theorem reads_fieldValue (style : Style) {depth : Nat} (hdepth : 1 < depth) (f : Field) :
    Reads depth (style.fieldValue f) f.toValue := by
  cases f with
  | severity s => exact reads_item style depth (.string s)
  | options written => exact reads_list style hdepth written

/-! ## Objects -/

theorem nextKey_end {t : Text} (first : Bool) (h : skipBlanks t = '\x7d' :: rest) :
    nextKey first t = .ok (.inr rest) := by
  rw [nextKey, h]
  rfl

/-- A quote opens the first key of an object behind blanks, and another one behind a comma, too. -/
theorem nextKey_of_skipBlanks {t u : Text} (h : skipBlanks t = '"' :: u) :
    nextKey true t = .ok (.inl u) ∧ nextKey false (',' :: t) = .ok (.inl u) := by
  have hcomma : skipBlanks (',' :: t) = ',' :: t := skipBlanks_cons (by decide) t
  constructor
  · simp [nextKey, h]
  · simp [nextKey, hcomma, h]

theorem entries_end {fuel : Nat} (hfuel : 0 < fuel) (depth : Nat) (first : Bool) {t : Text}
    (h : skipBlanks t = '\x7d' :: rest) : entries fuel depth first t = .ok ([], rest) := by
  obtain ⟨fuel, rfl⟩ : ∃ k, fuel = k + 1 := ⟨fuel - 1, by omega⟩
  rw [entries, nextKey_end first h]
  rfl

/-- Behind the opening quote of its key, a member is read as a whole, and then the others. -/
theorem entries_member {spell : Char → Text} (hspell : Spells spell) {key : String}
    {before after fuel depth : Nat} {first : Bool} {t u tail : Text} {v : Value}
    {more : List (String × Value)} (hkey : nextKey first t = .ok (.inl
      (key.toList.flatMap spell ++ '"' :: (blanks before ++ ':' :: (blanks after ++ (u ++ tail))))))
    (hread : Reads depth u v) (hfuel : u.length ≤ fuel + 1) (htail : EndsValue tail)
    (hmore : entries (fuel + 1) depth false tail = .ok (more, rest)) :
    entries (fuel + 2) depth first t = .ok ((key, v) :: more, rest) := by
  have hvalue : value (fuel + 1) depth (blanks after ++ (u ++ tail)) = .ok (v, tail) := by
    rw [value_blanks]
    exact hread (fuel + 1) tail hfuel htail
  rw [entries, hkey]
  simp only [bind, Except.bind, hspell.string_flatMap, colon_blanks, hvalue, hmore]
  rfl

/-- An object is read up to its end. -/
theorem reads_table_of_entries {depth : Nat} (hdepth : 1 < depth) {t : Text}
    {es : List (String × Value)} (hentries : ∀ fuel rest, t.length ≤ fuel →
      entries fuel (depth - 1) true (t ++ rest) = .ok (es, rest)) :
    Reads depth ('\x7b' :: t) (.table es) := by
  intro fuel rest hfuel _
  rw [List.length_cons] at hfuel
  obtain ⟨fuel, rfl⟩ : ∃ k, fuel = k + 1 := ⟨fuel - 1, by omega⟩
  rw [List.cons_append, value, skipBlanks_cons (by decide)]
  simp only [if_neg (Nat.not_le.2 hdepth), hentries fuel rest (by omega), bind, Except.bind]
  rfl

theorem member_append (style : Style) (b : Binding) (rest : Text) :
    style.member b ++ rest =
      '"' :: (style.characters b.key ++
        '"' :: (blanks style.padding ++ ':' :: (blanks style.gap ++ (b.text ++ rest)))) := by
  simp [Style.member, Style.quoted]

theorem nextKey_member (style : Style) (b : Binding) (count : Nat) (t : Text) :
    let u := style.characters b.key ++
      '"' :: (blanks style.padding ++ ':' :: (blanks style.gap ++ (b.text ++ t)))
    nextKey true (blanks count ++ (style.member b ++ t)) = .ok (.inl u) ∧
      nextKey false (',' :: (blanks count ++ (style.member b ++ t))) = .ok (.inl u) := by
  refine nextKey_of_skipBlanks ?_
  rw [skipBlanks_blanks, member_append]
  rfl

theorem entries_tail (style : Style) {depth : Nat} (members : List Binding)
    (hread : ∀ b ∈ members, Reads depth b.text b.value) {fuel : Nat}
    (h : (style.tail '\x7d' (members.map style.member)).length ≤ fuel) (rest : Text) :
    entries fuel depth false (style.tail '\x7d' (members.map style.member) ++ rest) =
      .ok (members.map Binding.entry, rest) := by
  induction members generalizing fuel with
  | nil =>
    have hpos : 0 < fuel := Nat.lt_of_lt_of_le (by simp [Style.tail]) h
    exact entries_end hpos depth false (skipBlanks_closing style.padding (by decide) rest)
  | cons b more ih =>
    rw [List.forall_mem_cons] at hread
    have hlength := style.length_member_lt b
    have hpos := style.length_tail_pos '\x7d' (more.map style.member)
    simp only [List.map_cons, Style.tail, List.cons_append, List.append_assoc, List.length_append,
      List.length_cons] at h ⊢
    obtain ⟨fuel, rfl⟩ : ∃ k, fuel = k + 2 := ⟨fuel - 2, by omega⟩
    exact entries_member (spells_character style) (nextKey_member style b _ _).2 hread.1
      (by omega) (.tail style (.inr rfl) _ rest) (ih hread.2 (by omega))

theorem entries_body (style : Style) {depth : Nat} (members : List Binding)
    (hread : ∀ b ∈ members, Reads depth b.text b.value) {fuel : Nat}
    (h : (style.body style.padding '\x7d' (members.map style.member)).length ≤ fuel) (rest : Text) :
    entries fuel depth true (style.body style.padding '\x7d' (members.map style.member) ++ rest) =
      .ok (members.map Binding.entry, rest) := by
  cases members with
  | nil =>
    have hpos : 0 < fuel := Nat.lt_of_lt_of_le (by simp [Style.body]) h
    exact entries_end hpos depth true (skipBlanks_closing style.padding (by decide) rest)
  | cons b more =>
    rw [List.forall_mem_cons] at hread
    have hlength := style.length_member_lt b
    have hpos := style.length_tail_pos '\x7d' (more.map style.member)
    simp only [List.map_cons, Style.body, List.append_assoc, List.length_append] at h ⊢
    obtain ⟨fuel, rfl⟩ : ∃ k, fuel = k + 2 := ⟨fuel - 2, by omega⟩
    exact entries_member (spells_character style) (nextKey_member style b _ _).1 hread.1
      (by omega) (.tail style (.inr rfl) _ rest) (entries_tail style more hread.2 (by omega) rest)

theorem reads_object (style : Style) {depth : Nat} (hdepth : 1 < depth) (members : List Binding)
    (hread : ∀ b ∈ members, Reads (depth - 1) b.text b.value) :
    Reads depth (style.object members) (.table (members.map Binding.entry)) :=
  reads_table_of_entries hdepth fun _ rest hfuel => entries_body style members hread hfuel rest

theorem reads_jsonValue (style : Style) {depth : Nat} (hdepth : 2 < depth) (entry : Entry) :
    Reads depth (style.jsonValue entry) (style.value entry) := by
  cases entry with
  | flag b => exact reads_item style depth (.boolean b)
  | list written => exact reads_list style (by omega) written
  | table severity? options? =>
    refine reads_object style (by omega) _ fun b hb => ?_
    obtain ⟨f, -, rfl⟩ := List.mem_map.1 hb
    exact reads_fieldValue style (by omega) f

end ClassSpacing.Json

namespace ClassSpacing.Config

open Json (Reads)

/-! ## Documents -/

/-- The rules of a document are read up to their end. -/
theorem jsonRules_object (style : Style) (members : List Binding)
    (hread : ∀ b ∈ members, Reads (Json.depthLimit - 2) b.text b.value) {fuel : Nat}
    (h : (style.object members).length ≤ fuel) (rest : Text) :
    jsonRules fuel (blanks style.gap ++ (style.object members ++ rest)) =
      .ok (members.map Binding.entry, rest) := by
  rw [Style.object, Style.enclose, List.length_cons] at h
  rw [jsonRules, Json.skipBlanks_blanks, Style.object, Style.enclose, List.cons_append,
    Json.skipBlanks_cons (by decide)]
  exact Json.entries_body style members hread (by omega) rest

/-- The only field of a document is that of its rules. -/
theorem jsonFields_body (style : Style) {b : Binding} (hkey : b.key = "rules")
    {read : List (String × Value)} {fuel : Nat}
    (hfuel : (style.body style.padding '\x7d' [style.member b]).length ≤ fuel)
    (hrules : ∀ fuel rest, b.text.length ≤ fuel →
      jsonRules fuel (blanks style.gap ++ (b.text ++ rest)) = .ok (read, rest)) :
    jsonFields none fuel true (style.body style.padding '\x7d' [style.member b]) =
      .ok (read, []) := by
  have hlength := style.length_member_lt b
  simp only [Style.body, Style.tail, List.length_append, List.length_singleton] at hfuel ⊢
  obtain ⟨fuel, rfl⟩ : ∃ k, fuel = k + 2 := ⟨fuel - 2, by omega⟩
  have hend : jsonFields (some read) (fuel + 1) false (blanks style.padding ++ ['\x7d']) =
      .ok (read, []) := by
    rw [jsonFields, Json.nextKey_end false (Json.skipBlanks_blanks_cons _ (by decide) [])]
    rfl
  rw [jsonFields, (Json.nextKey_member style b style.padding _).1]
  simp only [bind, Except.bind, Json.string_characters, Json.colon_blanks, hkey, if_true,
    Option.isSome_none, Bool.false_eq_true, if_false]
  rw [hrules _ _ (by simp only [Json.fuelFor, List.length_append, List.length_cons]; omega)]
  exact hend

/-- A JSON document with an entry for the spacing rule is read as just that. -/
theorem ofJson_jsonText (style : Style) (entry : Entry) :
    ofJson (style.jsonText entry) = .ok (ofEntries [(ruleName, style.value entry)]) := by
  have hread : ∀ b ∈ [style.jsonRule entry], Reads (Json.depthLimit - 2) b.text b.value := by
    rw [List.forall_mem_singleton]
    exact Json.reads_jsonValue style (by decide) entry
  have hconfig : jsonConfig (style.jsonText entry) = .ok ([(ruleName, style.value entry)], []) := by
    rw [jsonConfig, Style.jsonText, Style.object, Style.enclose, Json.skipBlanks_cons (by decide)]
    exact jsonFields_body style rfl (Nat.le_succ _)
      fun fuel rest h => jsonRules_object style _ hread h rest
  rw [ofJson, hconfig]
  rfl

end ClassSpacing.Config
