import ClassSpacing.Proofs.Config.Written

/-!
# Reading written items in JSON

What is written in any style reads back: the characters of strings, numbers, and the items of lists.
A reader is given the written text and whatever follows on it, and leaves just that.
-/

namespace ClassSpacing.Json

open Config (Style Item EndsValue needsEscape)
open Decimal (push isDigit)

variable {rest : Text}

/-! ## Strings -/

theorem hexValue?_hexDigit (style : Style) (n : Nat) :
    hexValue? (style.hexDigit n) = some (n % 16) := by
  have hdigits : ∀ k < 16, hexValue? (Nat.digitChar k) = some k ∧
      hexValue? (Nat.digitChar k).toUpper = some k := by decide
  obtain ⟨hlower, hupper⟩ := hdigits (n % 16) (Nat.mod_lt n (by decide))
  unfold Style.hexDigit
  split
  · exact hupper
  · exact hlower

/-- The number of a character is no half of a surrogate pair. -/
theorem not_isSurrogate (c : Char) : isTrailing c.toNat = false ∧ isLeading c.toNat = false := by
  have hvalid : c.toNat < 0xD800 ∨ (0xDFFF < c.toNat ∧ c.toNat < 0x110000) := c.valid
  simp only [isTrailing, isLeading, Bool.and_eq_false_iff, decide_eq_false_iff_not]
  omega

theorem escape_of_hexNumber? {a b d e c : Char} (h : hexNumber? a b d e = some c.toNat)
    (rest : Text) : escape ('u' :: a :: b :: d :: e :: rest) = .ok (c, rest) := by
  obtain ⟨htrailing, hleading⟩ := not_isSurrogate c
  simp only [escape, numericEscape, hexEscape, h, htrailing, hleading, Char.ofNat_toNat]
  rfl

theorem hexNumber?_numbered (style : Style) {c : Char} (h : c.toNat < 0x10000) :
    hexNumber? (style.hexDigit (c.toNat / 4096)) (style.hexDigit (c.toNat / 256))
      (style.hexDigit (c.toNat / 16)) (style.hexDigit c.toNat) = some c.toNat := by
  simp only [hexNumber?, hexValue?_hexDigit, bind, Option.bind, pure, Option.some.injEq]
  omega

/-- Whatever `spell` makes of a character is read as that character. -/
def Spells (spell : Char → Text) : Prop :=
  ∀ c fuel t, characters (fuel + 1) (spell c ++ t) =
    (characters fuel t).map fun (cs, rest) => (c :: cs, rest)

theorem characters_of_escape {c : Char} {t after : Text} (h : escape t = .ok (c, after))
    (fuel : Nat) :
    characters (fuel + 1) ('\\' :: t) =
      (characters fuel after).map fun (cs, rest) => (c :: cs, rest) := by
  rw [characters, if_neg (by decide), if_pos rfl, h]
  cases hafter : characters fuel after <;>
    simp [bind, Except.bind, hafter, Except.map, pure, Except.pure]

theorem characters_of_plain {c : Char} (hquote : c ≠ '"') (hbackslash : c ≠ '\\')
    (hcontrol : isControl c = false) (fuel : Nat) (t : Text) :
    characters (fuel + 1) (c :: t) =
      (characters fuel t).map fun (cs, rest) => (c :: cs, rest) := by
  rw [characters, if_neg hquote, if_neg hbackslash, hcontrol]
  cases characters fuel t <;> rfl

theorem spells_character (style : Style) : Spells style.character := by
  intro c fuel t
  unfold Style.character
  split
  · next hescapes =>
    have hnumber := hexNumber?_numbered style (Style.toNat_lt_of_escapes hescapes)
    exact characters_of_escape (escape_of_hexNumber? hnumber t) fuel
  · next hescapes =>
    have hplain := Style.needsEscape_eq_false (Bool.eq_false_iff.2 hescapes)
    simp only [needsEscape, Bool.or_eq_false_iff, beq_eq_false_iff_ne,
      decide_eq_false_iff_not] at hplain
    obtain ⟨⟨⟨hquote, hbackslash⟩, hcontrol⟩, -⟩ := hplain
    exact characters_of_plain hquote hbackslash (by simpa [isControl] using hcontrol) fuel t

namespace Spells

variable {spell : Char → Text}

theorem length_pos (h : Spells spell) (c : Char) : 0 < (spell c).length := by
  rw [List.length_pos_iff]
  intro hnil
  have hread := h c 0 ['"']
  rw [hnil] at hread
  cases hread

/-- The characters of a string are read up to its closing quote. -/
theorem characters_flatMap (h : Spells spell) (cs : List Char) {fuel : Nat}
    (hfuel : (cs.flatMap spell).length < fuel) (rest : Text) :
    characters fuel (cs.flatMap spell ++ '"' :: rest) = .ok (cs, rest) := by
  induction cs generalizing fuel with
  | nil =>
    obtain ⟨fuel, rfl⟩ := Nat.exists_eq_add_of_lt hfuel
    rfl
  | cons c cs ih =>
    have hpos := h.length_pos c
    rw [List.flatMap_cons, List.length_append] at hfuel
    obtain ⟨fuel, rfl⟩ : ∃ k, fuel = k + 1 := ⟨fuel - 1, by omega⟩
    rw [List.flatMap_cons, List.append_assoc, h, ih (by omega)]
    rfl

theorem string_flatMap (h : Spells spell) (s : String) (rest : Text) :
    string (s.toList.flatMap spell ++ '"' :: rest) = .ok (s, rest) := by
  have hread : characters ((s.toList.flatMap spell ++ '"' :: rest).length + 1)
      (s.toList.flatMap spell ++ '"' :: rest) = .ok (s.toList, rest) := by
    refine h.characters_flatMap s.toList ?_ rest
    rw [List.length_append]
    omega
  rw [string, hread]
  simp [bind, Except.bind, pure, Except.pure]

end Spells

theorem string_characters (style : Style) (s : String) (rest : Text) :
    string (style.characters s ++ '"' :: rest) = .ok (s, rest) :=
  (spells_character style).string_flatMap s rest

/-! ## Numbers -/

/-- Digits of a number that fits are all taken. -/
theorem absorbDigits_append {digits : List Char} {n : Nat} (count : Nat)
    (hdigits : ∀ c ∈ digits, isDigit c = true)
    (hbound : digits.foldl push n < Decimal.wordBound) (hrest : startsWithDigit rest = false) :
    absorbDigits n count (digits ++ rest) =
      (digits.foldl push n, count + digits.length, rest) := by
  induction digits generalizing n count with
  | nil =>
    cases rest with
    | nil => rfl
    | cons c rest =>
      have hc : isDigit c = false := hrest
      simp [absorbDigits, hc]
  | cons c digits ih =>
    rw [List.forall_mem_cons] at hdigits
    have hnext : push n c < Decimal.wordBound := (Decimal.le_foldl_push digits _).trans_lt hbound
    have hread := ih (count + 1) hdigits.2 hbound
    rw [List.cons_append, absorbDigits, hdigits.1, List.foldl_cons, List.length_cons]
    rw [show n * 10 + Decimal.digitValue c = push n c from rfl]
    simp only [hnext, decide_true, Bool.and_self, if_true, hread]
    congr 2
    omega

/-- Nothing that can stand behind a value belongs to a number. -/
theorem afterInteger_of_endsValue (negative : Bool) (n : Nat) (h : EndsValue rest) :
    afterInteger negative n rest = .ok (integerValue negative n, rest) := by
  cases rest with
  | nil => rfl
  | cons c rest =>
    have hc := h c rfl
    simp only [List.mem_cons, List.not_mem_nil, or_false] at hc
    rcases hc with rfl | rfl | rfl | rfl | rfl <;> rfl

theorem startsWithDigit_of_endsValue (h : EndsValue rest) : startsWithDigit rest = false := by
  cases rest with
  | nil => rfl
  | cons c rest =>
    have hc := h c rfl
    simp only [List.mem_cons, List.not_mem_nil, or_false] at hc
    rcases hc with rfl | rfl | rfl | rfl | rfl <;> rfl

/-- A numeral of a word is read as a whole. -/
theorem number_toDigits (negative : Bool) {n : Nat} (hn : n < Decimal.wordBound)
    (h : EndsValue rest) :
    number negative (Nat.toDigits 10 n ++ rest) = .ok (integerValue negative n, rest) := by
  obtain ⟨rfl, hdigits⟩ | ⟨c, digits, hdigits, hc⟩ := Decimal.toDigits_cases n
  · rw [hdigits]
    simp only [List.cons_append, List.nil_append, number]
    rw [startsWithDigit_of_endsValue h]
    exact afterInteger_of_endsValue negative 0 h
  · have hall : ∀ d ∈ Nat.toDigits 10 n, isDigit d = true :=
      fun d hd => Decimal.isDigit_of_mem_toDigits hd
    have habsorb : absorbDigits 0 0 (Nat.toDigits 10 n ++ rest) =
        (n, 0 + (Nat.toDigits 10 n).length, rest) := by
      rw [absorbDigits_append 0 hall (by rwa [Decimal.foldl_push_toDigits])
        (startsWithDigit_of_endsValue h), Decimal.foldl_push_toDigits]
    have hdigit : isDigit c = true := hall c (by rw [hdigits]; exact List.mem_cons_self)
    rw [hdigits, List.cons_append] at habsorb ⊢
    unfold number
    split
    · next heq => cases heq
    · next rest' heq => exact absurd (List.cons.inj heq).1 hc
    · next d rest' _ heq =>
      obtain ⟨rfl, rfl⟩ := List.cons.inj heq
      rw [if_pos hdigit, habsorb]
      exact afterInteger_of_endsValue negative n h

/-- A number that is not below the least one with a sign is an integer. -/
theorem integerValue_natAbs {n : Int} (h : -(Decimal.signedBound : Int) ≤ n) :
    integerValue (decide (n < 0)) n.natAbs = .integer n := by
  unfold integerValue
  by_cases hneg : n < 0
  · rw [if_neg (by simp [hneg]), if_neg (by simp; omega)]
    congr 1
    omega
  · rw [if_pos (by simp [hneg])]
    congr 1
    omega

/-! ## Items -/

theorem scalar_of_isDigit {c : Char} (h : isDigit c = true) (t : Text) :
    scalar (c :: t) = number false (c :: t) := by
  unfold scalar
  split
  · next heq => obtain ⟨rfl, -⟩ := List.cons.inj heq; cases h
  · next heq => obtain ⟨rfl, -⟩ := List.cons.inj heq; cases h
  · next heq => obtain ⟨rfl, -⟩ := List.cons.inj heq; cases h
  · next heq => obtain ⟨rfl, -⟩ := List.cons.inj heq; cases h
  · next heq => obtain ⟨rfl, -⟩ := List.cons.inj heq; cases h
  · rw [startsWithDigit, h]
    rfl

/-- A number of 64 bits, with or without a sign, is read as itself. -/
theorem scalar_integer {n : Int} (hle : -(Decimal.signedBound : Int) ≤ n)
    (hlt : n < Decimal.wordBound) (h : EndsValue rest) :
    scalar ((toString n).toList ++ rest) = .ok (.integer n, rest) := by
  have hn : n.natAbs < Decimal.wordBound := by
    unfold Decimal.signedBound at hle
    unfold Decimal.wordBound at hlt ⊢
    omega
  have hvalue := integerValue_natAbs hle
  rw [Decimal.toList_toString]
  by_cases hneg : n < 0
  · rw [decide_eq_true hneg] at hvalue
    rw [if_pos hneg, List.cons_append, scalar, number_toDigits true hn h, hvalue]
  · rw [decide_eq_false hneg] at hvalue
    have hread := number_toDigits false hn h
    rw [if_neg hneg]
    cases hdigits : Nat.toDigits 10 n.natAbs with
    | nil => exact absurd hdigits Nat.toDigits_ne_nil
    | cons c digits =>
      have hc : isDigit c = true := Decimal.isDigit_of_mem_toDigits
        (by rw [hdigits]; exact List.mem_cons_self)
      rw [hdigits] at hread
      rw [List.cons_append, scalar_of_isDigit hc, ← List.cons_append, hread, hvalue]

theorem scalar_quoted {spell : Char → Text} (hspell : Spells spell) (s : String) (rest : Text) :
    scalar ('"' :: (s.toList.flatMap spell ++ '"' :: rest)) = .ok (.string s, rest) := by
  rw [scalar, hspell.string_flatMap]
  rfl

theorem scalar_item (style : Style) (i : Item) (h : EndsValue rest) :
    scalar (style.item i ++ rest) = .ok (i.toValue, rest) := by
  match i with
  | .boolean true => rfl
  | .boolean false => rfl
  | .string s =>
    have hread := scalar_quoted (spells_character style) s rest
    simpa [Style.item, Style.quoted, Style.characters, Item.toValue] using hread
  | .integer n =>
    have hle := n.le_toInt
    have hlt := n.toInt_lt
    refine scalar_integer ?_ ?_ h
    · unfold Decimal.signedBound
      omega
    · unfold Decimal.wordBound
      omega

end ClassSpacing.Json
