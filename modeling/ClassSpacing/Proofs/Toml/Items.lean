import ClassSpacing.Proofs.Config.Written

/-!
# Reading written items in TOML

What is written in any style reads back: the characters of strings, numbers, and the items of lists.
A reader is given the written text and whatever follows on it, and leaves just that.
-/

namespace ClassSpacing.Toml

open Config (Style Item EndsValue startsItem needsEscape)
open Decimal (push isDigit digitValue)

variable {style : Style} {rest : Text}

/-! ## Strings -/

theorem digitIn?_hexDigit (style : Style) (n : Nat) :
    digitIn? 16 (style.hexDigit n) = some (n % 16) := by
  have hdigits : ∀ k < 16, digitIn? 16 (Nat.digitChar k) = some k ∧
      digitIn? 16 (Nat.digitChar k).toUpper = some k := by decide
  obtain ⟨hlower, hupper⟩ := hdigits (n % 16) (Nat.mod_lt n (by decide))
  unfold Style.hexDigit
  split
  · exact hupper
  · exact hlower

theorem escape?_numbered (style : Style) {c : Char} (h : c.toNat < 0x10000) (rest : Text) :
    escape? ('u' :: style.hexDigit (c.toNat / 4096) :: style.hexDigit (c.toNat / 256) ::
      style.hexDigit (c.toNat / 16) :: style.hexDigit c.toNat :: rest) = some (c, rest) := by
  have hvalid : c.toNat < 0xD800 ∨ (0xDFFF < c.toNat ∧ c.toNat < 0x110000) := c.valid
  have hnumber : ((c.toNat / 4096 % 16 * 16 + c.toNat / 256 % 16) * 16 + c.toNat / 16 % 16) * 16 +
      c.toNat % 16 = c.toNat := by omega
  have hcharacter : numberedCharacter? [style.hexDigit (c.toNat / 4096),
      style.hexDigit (c.toNat / 256), style.hexDigit (c.toNat / 16), style.hexDigit c.toNat] =
        some c := by
    simp only [numberedCharacter?, List.mapM_cons, List.mapM_nil, digitIn?_hexDigit, bind,
      Option.bind, pure, List.foldl_cons, List.foldl_nil, Nat.zero_mul, Nat.zero_add, hnumber]
    rw [if_pos (by simpa using hvalid), Char.ofNat_toNat]
  simp [escape?, numericEscape?, hcharacter]

/-- A written character is read, and the others behind it. -/
theorem basic?_character (style : Style) (c : Char) (fuel : Nat) (t : Text) :
    basic? (fuel + 1) (style.character c ++ t) =
      (basic? fuel t).map fun (cs, rest) => (c :: cs, rest) := by
  unfold Style.character
  split
  · next hescapes =>
    have hescape := escape?_numbered style (Style.toNat_lt_of_escapes hescapes) t
    simp only [Style.numbered, List.cons_append, List.nil_append, basic?]
    rw [if_neg (by decide), if_pos trivial, hescape]
    cases htail : basic? fuel t <;> simp [htail]
  · next hescapes =>
    have hplain := Style.needsEscape_eq_false (Bool.eq_false_iff.2 hescapes)
    simp only [needsEscape, Bool.or_eq_false_iff, beq_eq_false_iff_ne,
      decide_eq_false_iff_not] at hplain
    obtain ⟨⟨⟨hquote, hbackslash⟩, hcontrol⟩, hdelete⟩ := hplain
    have hforbidden : isForbidden c = false := by simp [isForbidden, hcontrol, hdelete]
    simp only [List.cons_append, List.nil_append, basic?]
    rw [if_neg hquote, if_neg hbackslash, hforbidden]
    cases basic? fuel t <;> rfl

/-- The characters of a string are read up to its closing quote. -/
theorem basic?_flatMap (style : Style) (cs : List Char) {fuel : Nat} (h : cs.length < fuel)
    (rest : Text) : basic? fuel (cs.flatMap style.character ++ '"' :: rest) = some (cs, rest) := by
  induction cs generalizing fuel with
  | nil =>
    obtain ⟨fuel, rfl⟩ := Nat.exists_eq_add_of_lt h
    rfl
  | cons c cs ih =>
    obtain ⟨fuel, rfl⟩ : ∃ k, fuel = k + 1 := ⟨fuel - 1, by omega⟩
    rw [List.length_cons] at h
    rw [List.flatMap_cons, List.append_assoc, basic?_character, ih (by omega)]
    rfl

theorem singleLine?_quoted (style : Style) (s : String) (rest : Text) :
    singleLine? (style.quoted s ++ rest) = some (s, rest) := by
  have hlength := style.length_toList_le s
  have hread : basic? ((style.characters s ++ '"' :: rest).length + 1)
      (style.characters s ++ '"' :: rest) = some (s.toList, rest) := by
    refine basic?_flatMap style s.toList ?_ rest
    rw [List.length_append]
    omega
  rw [Style.quoted, List.cons_append, List.append_assoc, List.singleton_append, singleLine?, hread]
  simp

/-- A quote never stands for itself. -/
theorem exists_character_eq_cons (style : Style) (c : Char) :
    ∃ d t, style.character c = d :: t ∧ d ≠ '"' := by
  unfold Style.character
  split
  · exact ⟨'\\', _, rfl, by decide⟩
  · next hescapes =>
    refine ⟨c, [], rfl, ?_⟩
    rintro rfl
    exact hescapes rfl

/-- Two quotes at the beginning are an empty string, and no third one follows on it. -/
theorem string?_quoted (style : Style) (s : String) (h : EndsValue rest) :
    string? (style.quoted s ++ rest) = some (s, rest) := by
  have hsingle := singleLine?_quoted style s rest
  unfold string?
  split
  · next t heq =>
    exfalso
    rw [Style.quoted, List.cons_append, List.append_assoc, List.singleton_append,
      Style.characters] at heq
    cases hs : s.toList with
    | nil =>
      -- The third quote would be the beginning of what follows on the string.
      rw [hs, List.flatMap_nil, List.nil_append] at heq
      obtain ⟨-, heq⟩ := List.cons.inj heq
      have hmem := h '"' (by rw [(List.cons.inj heq).2]; rfl)
      revert hmem
      decide
    | cons c cs =>
      -- Already the second quote would be the beginning of a character.
      obtain ⟨d, t, hd, hne⟩ := exists_character_eq_cons style c
      rw [hs, List.flatMap_cons, hd, List.cons_append, List.cons_append] at heq
      exact hne (List.cons.inj (List.cons.inj heq).2).1
  · next heq => exact absurd (List.cons.inj heq).1 (by decide)
  · exact hsingle

/-! ## Numbers -/

theorem digitIn?_of_isDigit {c : Char} (h : isDigit c = true) :
    digitIn? 10 c = some (digitValue c) := by
  have hbounds : '0' ≤ c ∧ c ≤ '9' := by simpa [isDigit] using h
  have hlt : c.toNat - 48 < 10 := by
    have hle : c.toNat ≤ 57 := hbounds.2
    omega
  simp [digitIn?, hbounds, hlt, digitValue]

theorem digitsFrom?_of_isDigit {digits : List Char} (h : ∀ c ∈ digits, isDigit c = true) (n : Nat) :
    digitsFrom? 10 n digits = some (digits.foldl push n) := by
  induction digits generalizing n with
  | nil => rfl
  | cons c digits ih =>
    rw [List.forall_mem_cons] at h
    have hread := ih h.2 (push n c)
    unfold digitsFrom?
    split
    · next heq => cases heq
    · next heq => obtain ⟨rfl, -⟩ := List.cons.inj heq; exact absurd h.1 (by decide)
    · next d rest' heq =>
      obtain ⟨rfl, rfl⟩ := List.cons.inj heq
      rw [digitIn?_of_isDigit h.1]
      exact hread

theorem digits?_toDigits (n : Nat) : digits? 10 (Nat.toDigits 10 n) = some n := by
  have hall : ∀ c ∈ Nat.toDigits 10 n, isDigit c = true :=
    fun c hc => Decimal.isDigit_of_mem_toDigits hc
  have hvalue := Decimal.foldl_push_toDigits n
  cases hdigits : Nat.toDigits 10 n with
  | nil => exact absurd hdigits Nat.toDigits_ne_nil
  | cons c digits =>
    rw [hdigits] at hall hvalue
    rw [List.forall_mem_cons] at hall
    have hfirst : push 0 c = digitValue c := by simp [push]
    rw [List.foldl_cons, hfirst] at hvalue
    rw [digits?, digitIn?_of_isDigit hall.1]
    exact (digitsFrom?_of_isDigit hall.2 _).trans (congrArg some hvalue)

/-- A number of 64 bits with a sign fits. -/
theorem word?_natAbs (n : Int64) :
    word? (decide (n.toInt < 0)) n.toInt.natAbs = some (.integer n.toInt) := by
  have hle := n.le_toInt
  have hlt := n.toInt_lt
  unfold word? Decimal.signedBound
  by_cases hneg : n.toInt < 0
  · by_cases hmin : n.toInt.natAbs < 0x8000000000000000
    · rw [if_pos hmin, decide_eq_true hneg, if_pos rfl]
      congr 2
      omega
    · -- Only the least number is as far from zero as that.
      rw [if_neg hmin, if_pos (by simp [hneg]; omega)]
      congr 2
      omega
  · rw [if_pos (by omega), decide_eq_false hneg]
    congr 2
    simp
    omega

theorem hasLeadingZero_toDigits (n : Nat) : hasLeadingZero (Nat.toDigits 10 n) = false := by
  obtain ⟨-, hdigits⟩ | ⟨c, digits, hdigits, hc⟩ := Decimal.toDigits_cases n
  · rw [hdigits]
    rfl
  · rw [hdigits]
    unfold hasLeadingZero
    split
    · next heq => exact absurd (List.cons.inj heq).1 hc
    · rfl

/-- A numeral has no mark of another base. -/
theorem integer?_eq {run : Text} (h : ∀ c t, run ≠ '0' :: c :: t) :
    integer? run =
      if hasLeadingZero (splitSign run).2 then none
      else (digits? 10 (splitSign run).2).bind (word? (splitSign run).1) := by
  unfold integer?
  split
  · next heq => exact absurd rfl (h _ _)
  · next heq => exact absurd rfl (h _ _)
  · next heq => exact absurd rfl (h _ _)
  · rfl

/-- A digit is no sign. -/
theorem splitSign_toDigits (n : Nat) :
    splitSign (Nat.toDigits 10 n) = (false, Nat.toDigits 10 n) := by
  have hall : ∀ c ∈ Nat.toDigits 10 n, isDigit c = true :=
    fun c hc => Decimal.isDigit_of_mem_toDigits hc
  unfold splitSign
  split
  · next heq => exact absurd (hall '-' (by rw [heq]; exact List.mem_cons_self)) (by decide)
  · next heq => exact absurd (hall '+' (by rw [heq]; exact List.mem_cons_self)) (by decide)
  · rfl

theorem integer?_toString (n : Int64) :
    integer? (toString n.toInt).toList = some (.integer n.toInt) := by
  have hword := word?_natAbs n
  rw [Decimal.toList_toString]
  by_cases hneg : n.toInt < 0
  · have hmark : ∀ c t, '-' :: Nat.toDigits 10 n.toInt.natAbs ≠ '0' :: c :: t :=
      fun c t heq => absurd (List.cons.inj heq).1 (by decide)
    rw [if_pos hneg, integer?_eq hmark, splitSign, hasLeadingZero_toDigits, digits?_toDigits]
    rw [decide_eq_true hneg] at hword
    exact hword
  · have hmark : ∀ c t, Nat.toDigits 10 n.toInt.natAbs ≠ '0' :: c :: t := by
      intro c t heq
      have hzero := hasLeadingZero_toDigits n.toInt.natAbs
      rw [heq] at hzero
      cases hzero
    rw [if_neg hneg, integer?_eq hmark, splitSign_toDigits, hasLeadingZero_toDigits,
      digits?_toDigits]
    rw [decide_eq_false hneg] at hword
    exact hword

/-! ## Runs -/

/-- Nothing that can stand behind a value belongs to a run. -/
theorem not_isRunCharacter_of_endsValue (h : EndsValue rest) :
    rest.takeWhile isRunCharacter = [] := by
  cases rest with
  | nil => rfl
  | cons c rest =>
    have hc := h c rfl
    simp only [List.mem_cons, List.not_mem_nil, or_false] at hc
    rcases hc with rfl | rfl | rfl | rfl | rfl <;> rfl

/-- A run that is no date is read up to its end. -/
theorem splitRun_append (run : Text) (hrun : ∀ c ∈ run, isRunCharacter c = true)
    (hdate : isDate run = false) (h : EndsValue rest) : splitRun (run ++ rest) = (run, rest) := by
  have htake : (run ++ rest).takeWhile isRunCharacter = run := by
    rw [List.takeWhile_append_of_pos hrun, not_isRunCharacter_of_endsValue h, List.append_nil]
  unfold splitRun
  simp only [htake, hdate, List.drop_left]

/-- A date has a hyphen behind its first character. -/
theorem hyphen_mem_of_isDate {run : Text} (h : isDate run = true) : '-' ∈ run.tail := by
  unfold isDate at h
  split at h
  · simp
  · cases h

theorem isRunCharacter_of_isDigit {c : Char} (h : isDigit c = true) : isRunCharacter c = true := by
  have halphanum : c.isAlphanum = true := by
    simp [Char.isAlphanum, ← Decimal.isDigit_eq, h]
  simp [isRunCharacter, halphanum]

/-- The text of a number is one run and no date. -/
theorem splitRun_toString (n : Int) (h : EndsValue rest) :
    splitRun ((toString n).toList ++ rest) = ((toString n).toList, rest) := by
  have hall : ∀ c ∈ Nat.toDigits 10 n.natAbs, isDigit c = true :=
    fun c hc => Decimal.isDigit_of_mem_toDigits hc
  have htail : ∀ c ∈ (toString n).toList.tail, isDigit c = true := by
    rw [Decimal.toList_toString]
    split
    · exact hall
    · exact fun c hc => hall c (List.mem_of_mem_tail hc)
  refine splitRun_append _ ?_ ?_ h
  · intro c hc
    rw [Decimal.toList_toString] at hc
    split at hc
    · obtain rfl | hc := List.mem_cons.1 hc
      · rfl
      · exact isRunCharacter_of_isDigit (hall c hc)
    · exact isRunCharacter_of_isDigit (hall c hc)
  · rw [Bool.eq_false_iff]
    intro hdate
    exact absurd (htail '-' (hyphen_mem_of_isDate hdate)) (by decide)

theorem scalar?_toString (n : Int64) :
    scalar? (toString n.toInt).toList = some (.integer n.toInt) := by
  have hinteger := integer?_toString n
  unfold scalar?
  split
  · next heq => rw [heq] at hinteger; cases hinteger
  · next heq => rw [heq] at hinteger; cases hinteger
  · rw [hinteger]
    rfl

/-! ## Items -/

/-- Whether a character is neither a blank nor the beginning of a comment. -/
def startsToken (c : Char) : Bool :=
  !(isSpaceOrTab c || c == '#' || c == '\n' || c == '\r')

/-- A text starts with a token and reads as a value, up to whatever may follow on a value. -/
structure Reads (depth : Nat) (t : Text) (v : Value) : Prop where
  exists_eq_cons : ∃ c rest, t = c :: rest ∧ startsToken c = true
  value?_eq : ∀ fuel rest, t.length ≤ fuel → EndsValue rest →
    value? fuel depth (t ++ rest) = some (v, rest)

/-- A value that is neither quoted nor bracketed is a run. -/
theorem value?_run {fuel depth : Nat} {c : Char} {t run : Text} {v : Value}
    (hc : c ∉ ['"', '\'', '[', '\x7b']) (hrun : splitRun (c :: t) = (run, rest))
    (hscalar : scalar? run = some v) : value? (fuel + 1) depth (c :: t) = some (v, rest) := by
  simp only [List.mem_cons, List.not_mem_nil, or_false, not_or] at hc
  unfold value?
  split
  · next heq => exact absurd (List.cons.inj heq).1 hc.1
  · next heq => exact absurd (List.cons.inj heq).1 hc.2.1
  · next heq => exact absurd (List.cons.inj heq).1 hc.2.2.1
  · next heq => exact absurd (List.cons.inj heq).1 hc.2.2.2
  · simp [hrun, hscalar]

theorem value?_string (style : Style) (s : String) (fuel depth : Nat) (h : EndsValue rest) :
    value? (fuel + 1) depth (style.quoted s ++ rest) = some (.string s, rest) := by
  have hstring := string?_quoted style s h
  rw [Style.quoted, List.cons_append, List.append_assoc, List.singleton_append] at hstring ⊢
  simp [value?, hstring]

/-- The characters that items without quotes start with are no others. -/
theorem notMem_of_isDigit {c : Char} (h : isDigit c = true) :
    c ∉ ['"', '\'', '[', '\x7b'] := by
  intro hmem
  simp only [List.mem_cons, List.not_mem_nil, or_false] at hmem
  rcases hmem with rfl | rfl | rfl | rfl <;> cases h

theorem value?_item (style : Style) (i : Item) (fuel depth : Nat) (h : EndsValue rest) :
    value? (fuel + 1) depth (style.item i ++ rest) = some (i.toValue, rest) := by
  match i with
  | .boolean true =>
    have hrun : ∀ c ∈ ['t', 'r', 'u', 'e'], isRunCharacter c = true := by simp [isRunCharacter]
    exact value?_run (by decide) (splitRun_append _ hrun rfl h) rfl
  | .boolean false =>
    have hrun : ∀ c ∈ ['f', 'a', 'l', 's', 'e'], isRunCharacter c = true := by
      simp [isRunCharacter]
    exact value?_run (by decide) (splitRun_append _ hrun rfl h) rfl
  | .string s => exact value?_string style s fuel depth h
  | .integer n =>
    have hrun := splitRun_toString n.toInt h
    have hscalar := scalar?_toString n
    rw [Style.item]
    cases htext : (toString n.toInt).toList with
    | nil =>
      rw [htext] at hscalar
      cases hscalar
    | cons c t =>
      rw [htext] at hrun hscalar
      refine value?_run ?_ hrun hscalar
      have hdigit : ∀ d ∈ Nat.toDigits 10 n.toInt.natAbs, isDigit d = true :=
        fun d hd => Decimal.isDigit_of_mem_toDigits hd
      rw [Decimal.toList_toString] at htext
      split at htext
      · rw [← (List.cons.inj htext).1]
        decide
      · exact notMem_of_isDigit (hdigit c (by rw [htext]; exact List.mem_cons_self))

theorem startsToken_of_startsItem {c : Char} (h : startsItem c = true) : startsToken c = true := by
  rw [startsToken, Bool.not_eq_true', Bool.eq_false_iff]
  intro hblank
  simp only [isSpaceOrTab, Bool.or_eq_true, beq_iff_eq] at hblank
  obtain (((rfl | rfl) | rfl) | rfl) | rfl := hblank <;> cases h

theorem reads_item (style : Style) (depth : Nat) (i : Item) :
    Reads depth (style.item i) i.toValue := by
  obtain ⟨c, t, hitem, hc⟩ := style.exists_item_eq_cons i
  refine ⟨⟨c, t, hitem, startsToken_of_startsItem hc⟩, fun fuel rest hfuel hrest => ?_⟩
  rw [hitem, List.length_cons] at hfuel
  obtain ⟨fuel, rfl⟩ : ∃ k, fuel = k + 1 := ⟨fuel - 1, by omega⟩
  exact value?_item style i fuel depth hrest

end ClassSpacing.Toml
