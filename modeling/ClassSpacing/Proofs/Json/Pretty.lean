import ClassSpacing.Json.Writer
import ClassSpacing.Proofs.Json.Documents

/-!
# Reading what is written

`Json.pretty` escapes what may not stand between quotes, and lays lists and objects out over several
lines. None of this is lost on the reader: `parse_pretty` gets the same value back, unless it holds
floats, integers that do not fit in 64 bits, or more lists inside each other than are accepted.
-/

namespace ClassSpacing

/-- A value without floats, with integers of 64 bits, and with no more than so many lists and tables
    inside each other. -/
inductive Value.Plain : Nat → Value → Prop
  | null (levels : Nat) : Plain levels .null
  | boolean (levels : Nat) (b : Bool) : Plain levels (.boolean b)
  | integer {levels : Nat} {n : Int} (hle : -(Decimal.signedBound : Int) ≤ n)
      (hlt : n < Decimal.wordBound) : Plain levels (.integer n)
  | string (levels : Nat) (s : String) : Plain levels (.string s)
  | list {levels : Nat} {items : List Value} (h : ∀ v ∈ items, Plain levels v) :
      Plain (levels + 1) (.list items)
  | table {levels : Nat} {entries : List (String × Value)}
      (h : ∀ e ∈ entries, Plain levels e.2) : Plain (levels + 1) (.table entries)

namespace Json

open Config (EndsValue blanks)

variable {depth level : Nat}

/-! ## Strings -/

theorem hexNumber?_numberedControl {c : Char} (h : isControl c = true) :
    hexNumber? '0' '0' (Nat.digitChar (c.toNat / 16)) (Nat.digitChar (c.toNat % 16)) =
      some c.toNat := by
  have hall : ∀ n < 0x20,
      hexNumber? '0' '0' (Nat.digitChar (n / 16)) (Nat.digitChar (n % 16)) = some n := by decide
  exact hall c.toNat (by simpa [isControl] using h)

theorem spells_escaped : Spells escaped := by
  intro c fuel t
  unfold escaped
  split
  -- Short escapes stand for the character that they are written for.
  iterate 7 exact characters_of_escape rfl fuel
  · next hquote hbackslash _ _ _ _ _ =>
    split
    · next hcontrol =>
      exact characters_of_escape (escape_of_hexNumber? (hexNumber?_numberedControl hcontrol) t) fuel
    · next hcontrol =>
      exact characters_of_plain hquote hbackslash (Bool.eq_false_iff.2 hcontrol) fuel t

/-! ## Layout -/

theorem skipBlanks_lineBreak (level : Nat) (t : Text) :
    skipBlanks (lineBreak level ++ t) = skipBlanks t := by
  refine skipBlanks_append (fun c hc => ?_) t
  obtain rfl | hc := List.mem_cons.1 hc
  · rfl
  · rw [List.eq_of_mem_replicate hc]
    rfl

theorem skipBlanks_lineBreak_cons (level : Nat) {c : Char} (h : isSeparator c = false) (t : Text) :
    skipBlanks (lineBreak level ++ c :: t) = c :: t := by
  rw [skipBlanks_lineBreak, skipBlanks_cons h]

theorem length_lineBreak_pos (level : Nat) : 0 < (lineBreak level).length :=
  Nat.succ_pos _

theorem startsValue_write {levels : Nat} {v : Value} (h : v.Plain levels) (level : Nat) :
    StartsValue (write level v) := by
  cases h with
  | null => exact .cons (by decide) _
  | boolean _ b => cases b <;> exact .cons (by decide) _
  | @integer _ n => exact startsValue_of_startsItem (Config.exists_toString_eq_cons n)
  | string => exact .cons (by decide) _
  | @list _ items => cases items <;> exact .cons (by decide) _
  | @table _ entries => cases entries <;> exact .cons (by decide) _

/-! ## Scalars -/

theorem reads_integer {n : Int} (hle : -(Decimal.signedBound : Int) ≤ n)
    (hlt : n < Decimal.wordBound) : Reads depth (toString n).toList (.integer n) :=
  reads_of_startsItem (Config.exists_toString_eq_cons n) fun _ hrest =>
    scalar_integer hle hlt hrest

theorem reads_quoted (s : String) : Reads depth (quoted s) (.string s) := by
  refine reads_of_startsItem ⟨'"', _, rfl, rfl⟩ fun rest _ => ?_
  simpa [quoted] using scalar_quoted spells_escaped s rest

/-! ## Lists -/

theorem endsValue_writeItems (level outer : Nat) (vs : List Value) (t : Text) :
    EndsValue (writeItems level vs ++ (lineBreak outer ++ t)) := by
  cases vs with
  | nil => exact .cons (by decide) _
  | cons v vs => exact .cons (by decide) _

/-- A value behind a line break is the next item of a list, and so it is behind a comma. -/
theorem nextItem_lineBreak {t : Text} (level : Nat) (h : StartsValue t) :
    nextItem true (lineBreak level ++ t) = .ok (.inl t) ∧
      nextItem false (',' :: (lineBreak level ++ t)) = .ok (.inl t) := by
  refine nextItem_of_skipBlanks ?_ h
  rw [skipBlanks_lineBreak, h.skipBlanks_eq]

/-- The items of a list behind the first one are read up to its end. -/
theorem items_writeItems (outer : Nat) {vs : List Value}
    (hstart : ∀ v ∈ vs, StartsValue (write level v))
    (hread : ∀ v ∈ vs, Reads depth (write level v) v) {fuel : Nat}
    (hfuel : (writeItems level vs).length < fuel) (rest : Text) :
    items fuel depth false (writeItems level vs ++ (lineBreak outer ++ ']' :: rest)) =
      .ok (vs, rest) := by
  induction vs generalizing fuel with
  | nil =>
    exact items_end (Nat.zero_lt_of_lt hfuel) depth false
      (skipBlanks_lineBreak_cons outer (by decide) rest)
  | cons v vs ih =>
    rw [List.forall_mem_cons] at hstart hread
    simp only [writeItems, List.cons_append, List.append_assoc, List.length_append,
      List.length_cons] at hfuel ⊢
    obtain ⟨fuel, rfl⟩ : ∃ k, fuel = k + 1 := ⟨fuel - 1, by omega⟩
    exact items_value (nextItem_lineBreak level (hstart.1.append _)).2 hread.1 (by omega)
      (endsValue_writeItems level outer vs _) (ih hstart.2 hread.2 (by omega))

theorem reads_writeList (hdepth : 1 < depth) {vs : List Value}
    (hstart : ∀ v ∈ vs, StartsValue (write (level + 1) v))
    (hread : ∀ v ∈ vs, Reads (depth - 1) (write (level + 1) v) v) :
    Reads depth (write level (.list vs)) (.list vs) := by
  cases vs with
  | nil => exact reads_list_of_items hdepth fun fuel rest hfuel => items_end hfuel _ true rfl
  | cons v vs =>
    rw [List.forall_mem_cons] at hstart hread
    simp only [write, List.cons_append, List.append_assoc]
    refine reads_list_of_items hdepth fun fuel rest hfuel => ?_
    simp only [List.append_assoc, List.singleton_append, List.length_append] at hfuel ⊢
    obtain ⟨fuel, rfl⟩ : ∃ k, fuel = k + 1 := ⟨fuel - 1, by simp at hfuel; omega⟩
    have hpos := length_lineBreak_pos (level + 1)
    exact items_value (nextItem_lineBreak (level + 1) (hstart.1.append _)).1 hread.1 (by omega)
      (endsValue_writeItems (level + 1) level vs _)
      (items_writeItems level hstart.2 hread.2 (by simp at hfuel; omega) rest)

/-! ## Objects -/

theorem writeEntry_append (level : Nat) (e : String × Value) (t : Text) :
    writeEntry level e ++ t =
      '"' :: (e.1.toList.flatMap escaped ++
        '"' :: (blanks 0 ++ ':' :: (blanks 1 ++ (write level e.2 ++ t)))) := by
  obtain ⟨key, v⟩ := e
  simp [writeEntry, quoted, blanks]

theorem length_write_lt (level : Nat) (e : String × Value) :
    (write level e.2).length + 1 < (writeEntry level e).length := by
  obtain ⟨key, v⟩ := e
  simp only [writeEntry, List.length_append, List.length_cons]
  omega

theorem endsValue_writeEntries (level outer : Nat) (es : List (String × Value)) (t : Text) :
    EndsValue (writeEntries level es ++ (lineBreak outer ++ t)) := by
  cases es with
  | nil => exact .cons (by decide) _
  | cons e es => exact .cons (by decide) _

/-- An entry behind a line break is the next one of an object, and so it is behind a comma. -/
theorem nextKey_lineBreak (outer level : Nat) (e : String × Value) (t : Text) :
    let u := e.1.toList.flatMap escaped ++
      '"' :: (blanks 0 ++ ':' :: (blanks 1 ++ (write level e.2 ++ t)))
    nextKey true (lineBreak outer ++ (writeEntry level e ++ t)) = .ok (.inl u) ∧
      nextKey false (',' :: (lineBreak outer ++ (writeEntry level e ++ t))) = .ok (.inl u) := by
  refine nextKey_of_skipBlanks ?_
  rw [writeEntry_append, skipBlanks_lineBreak_cons outer (by decide)]

/-- The entries of an object behind the first one are read up to its end. -/
theorem entries_writeEntries (outer : Nat) {es : List (String × Value)}
    (hread : ∀ e ∈ es, Reads depth (write level e.2) e.2) {fuel : Nat}
    (hfuel : (writeEntries level es).length < fuel) (rest : Text) :
    entries fuel depth false (writeEntries level es ++ (lineBreak outer ++ '\x7d' :: rest)) =
      .ok (es, rest) := by
  induction es generalizing fuel with
  | nil =>
    exact entries_end (Nat.zero_lt_of_lt hfuel) depth false
      (skipBlanks_lineBreak_cons outer (by decide) rest)
  | cons e es ih =>
    rw [List.forall_mem_cons] at hread
    have hlength := length_write_lt level e
    simp only [writeEntries, List.cons_append, List.append_assoc, List.length_append,
      List.length_cons] at hfuel ⊢
    obtain ⟨fuel, rfl⟩ : ∃ k, fuel = k + 2 := ⟨fuel - 2, by omega⟩
    exact entries_member spells_escaped (nextKey_lineBreak level level e _).2 hread.1 (by omega)
      (endsValue_writeEntries level outer es _) (ih hread.2 (by omega))

theorem reads_writeTable (hdepth : 1 < depth) {es : List (String × Value)}
    (hread : ∀ e ∈ es, Reads (depth - 1) (write (level + 1) e.2) e.2) :
    Reads depth (write level (.table es)) (.table es) := by
  cases es with
  | nil => exact reads_table_of_entries hdepth fun fuel rest hfuel => entries_end hfuel _ true rfl
  | cons e es =>
    rw [List.forall_mem_cons] at hread
    have hlength := length_write_lt (level + 1) e
    simp only [write, List.cons_append, List.append_assoc]
    refine reads_table_of_entries hdepth fun fuel rest hfuel => ?_
    simp only [List.append_assoc, List.singleton_append, List.length_append] at hfuel ⊢
    obtain ⟨fuel, rfl⟩ : ∃ k, fuel = k + 2 := ⟨fuel - 2, by omega⟩
    exact entries_member spells_escaped (nextKey_lineBreak (level + 1) (level + 1) e _).1 hread.1
      (by omega) (endsValue_writeEntries (level + 1) level es _)
      (entries_writeEntries level hread.2 (by omega) rest)

/-! ## All values -/

/-- A value is read from its text at any level. -/
theorem reads_write {levels : Nat} {v : Value} (h : v.Plain levels) (level : Nat) :
    Reads (levels + 1) (write level v) v := by
  induction h generalizing level with
  | null =>
    exact reads_of_scalar (by decide) (by decide) (by decide) fun rest _ => rfl
  | boolean _ b =>
    cases b <;> exact reads_of_scalar (by decide) (by decide) (by decide) fun rest _ => rfl
  | integer hle hlt => exact reads_integer hle hlt
  | string _ s => exact reads_quoted s
  | list h ih =>
    exact reads_writeList (by omega) (fun v hv => startsValue_write (h v hv) _)
      fun v hv => ih v hv (level + 1)
  | table h ih => exact reads_writeTable (by omega) fun e he => ih e he (level + 1)

/-- What is written is read back as the same value. -/
theorem parse_pretty {v : Value} (h : v.Plain (depthLimit - 1)) : parse (pretty v) = .ok v := by
  have hread : value (fuelFor (write 0 v)) depthLimit (write 0 v ++ []) = .ok (v, []) := by
    refine reads_write h 0 _ [] ?_ (by simp [EndsValue])
    unfold fuelFor
    omega
  rw [List.append_nil] at hread
  simp only [parse, pretty, hread, bind, Except.bind]
  rfl

end Json

end ClassSpacing
