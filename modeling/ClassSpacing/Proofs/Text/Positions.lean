import ClassSpacing.Proofs.Text.LineTable
import ClassSpacing.Proofs.Text.Utf8
import Mathlib.Data.Prod.Lex

/-!
# Bytes, lines and characters

A place in a text is a number of bytes, and a line together with a number of characters. The line
table leads from one to the other. `LineTable.Describes` says what it has to tell about a text: the
line of a place is the number of line feeds among the bytes before it, the lines make up the text,
and places in increasing order have positions in increasing order, from which they can be found
again.
-/

namespace ClassSpacing

/-! ## Line feeds among bytes -/

namespace Utf8

/-- The byte of a line feed occurs in the spelling of the line feed only. -/
theorem Spells.eq_newline {bytes : Bytes} {n : Nat} (h : Spells bytes n) (hmem : 0x0A ∈ bytes) :
    n = 0x0A := by
  have hlow : ∀ b : UInt8, 0x0A = b → b.toNat = 0x0A := by
    rintro b rfl
    rfl
  cases h with
  | one h₀ hn =>
    have hb := hlow _ (by simpa using hmem)
    omega
  | two h₀ h₁ hn =>
    rw [isContinuation_iff] at h₁
    rcases (by simpa using hmem) with hb | hb
    all_goals
      have := hlow _ hb
      omega
  | three h₀ h₁ h₂ hn =>
    rw [isSecond_iff] at h₁
    rw [isContinuation_iff] at h₂
    rcases (by simpa using hmem) with hb | hb | hb
    all_goals
      have := hlow _ hb
      omega
  | four h₀ h₁ h₂ h₃ hn =>
    rw [isSecond_iff] at h₁
    rw [isContinuation_iff] at h₂ h₃
    rcases (by simpa using hmem) with hb | hb | hb | hb
    all_goals
      have := hlow _ hb
      omega

theorem newline_notMem_utf8EncodeChar {c : Char} (hc : c ≠ '\n') :
    0x0A ∉ String.utf8EncodeChar c := by
  intro hmem
  have hnat : c.toNat = '\n'.toNat := (spells_utf8EncodeChar c).eq_newline hmem
  exact hc (Char.toNat_inj.1 hnat)

end Utf8

/-- The line and the character of a place, the line first. -/
def Position.key (p : Position) : Nat ×ₗ Nat :=
  toLex (p.line, p.character)

namespace LineTable

open Text

/-- The line starts up to an offset are as many as the line feeds among the bytes before it. -/
theorem countP_startsAfter (base offset : Nat) (t : Text) :
    (startsAfter base t).countP (· ≤ offset) =
      ((Utf8.encode t).take (offset - base)).count 0x0A := by
  induction t generalizing base with
  | nil => simp [startsAfter, Utf8.encode]
  | cons c t ih =>
    have hrest : offset - base - c.utf8Size = offset - (base + c.utf8Size) := Nat.sub_sub ..
    rw [Utf8.encode_cons, List.take_append, List.count_append, String.length_utf8EncodeChar, hrest,
      ← ih, startsAfter]
    by_cases hc : c = '\n'
    · subst hc
      have hbytes : String.utf8EncodeChar '\n' = [0x0A] := by decide
      have hsize : '\n'.utf8Size = 1 := rfl
      rw [if_pos rfl, List.countP_cons, hbytes, hsize]
      by_cases hle : base + 1 ≤ offset
      · obtain ⟨n, hn⟩ : ∃ n, offset - base = n + 1 := ⟨offset - base - 1, by omega⟩
        simp [hle, hn, Nat.add_comm]
      · have hzero : offset - base = 0 := by omega
        simp [hle, hzero]
    · have hnone : ((String.utf8EncodeChar c).take (offset - base)).count 0x0A = 0 :=
        List.count_eq_zero.2 fun hmem =>
          Utf8.newline_notMem_utf8EncodeChar hc (List.mem_of_mem_take hmem)
      rw [if_neg hc, hnone, Nat.zero_add]

theorem lineOf_eq_count (t : Text) (offset : Nat) :
    (ofText t).lineOf offset = ((Utf8.encode t).take offset).count 0x0A := by
  simp [lineOf, ofText, countP_startsAfter]

/-! ## Where lines start -/

variable {t : Text}

theorem lt_of_lineStart?_succ {offset next : Nat}
    (h : (ofText t).lineStart? ((ofText t).lineOf offset + 1) = some next) : offset < next := by
  by_contra hge
  have hmono := lineOf_mono t (Nat.le_of_not_lt hge)
  rw [lineOf_of_lineStart? h] at hmono
  omega

theorem lt_of_lineStart? {a b start stop : Nat} (hab : a < b)
    (ha : (ofText t).lineStart? a = some start) (hb : (ofText t).lineStart? b = some stop) :
    start < stop := by
  have hle := le_of_lineStart? (Nat.le_of_lt hab) ha hb
  have hne : start ≠ stop := by
    rintro rfl
    rw [← lineOf_of_lineStart? ha, ← lineOf_of_lineStart? hb] at hab
    omega
  omega

theorem isBoundary_of_lineStart? {line start : Nat}
    (h : (ofText t).lineStart? line = some start) : t.isBoundary start = true := by
  obtain ⟨above, rest, rfl, -, -, rfl⟩ := lineStart?_eq_some_iff.1 h
  exact isBoundary_iff.2 ⟨above, rest, rfl, rfl⟩

/-! ## What lines say -/

theorem eq_dropTrailingReturn_or (raw : Text) :
    raw = raw.dropTrailingReturn ∨ raw = raw.dropTrailingReturn ++ ['\r'] := by
  unfold dropTrailingReturn
  split
  · rename_i hlast
    obtain ⟨front, rfl⟩ := List.getLast?_eq_some_iff.1 hlast
    exact .inr (by simp)
  · exact .inl rfl

theorem newline_notMem_dropTrailingReturn {raw : Text} (h : '\n' ∉ raw) :
    '\n' ∉ raw.dropTrailingReturn := by
  intro hmem
  rcases eq_dropTrailingReturn_or raw with heq | heq
  · exact h (heq ▸ hmem)
  · exact h (heq ▸ List.mem_append_left _ hmem)

/-- What stands up to a line feed, or up to the end of the text, is what the line says, up to a
    carriage return. -/
theorem exists_lineText? {above raw tail : Text} (habove : EndsLine above) (hraw : '\n' ∉ raw)
    (htail : tail = [] ∨ ∃ more, tail = '\n' :: more) :
    ∃ text, (ofText (above ++ (raw ++ tail))).lineText? (above ++ (raw ++ tail))
        (above.count '\n') = some text ∧
      '\n' ∉ text ∧ (raw = text ∨ raw = text ++ ['\r']) := by
  refine ⟨raw.dropTrailingReturn, ?_, newline_notMem_dropTrailingReturn hraw,
    eq_dropTrailingReturn_or raw⟩
  rcases htail with rfl | ⟨more, rfl⟩
  · rw [List.append_nil]
    exact lineText?_of_last habove hraw
  · exact lineText?_of_cut habove hraw more

/-- A text is cut at its first line feed, if it has one. -/
theorem exists_raw (rest : Text) :
    ∃ raw tail, rest = raw ++ tail ∧ '\n' ∉ raw ∧ (tail = [] ∨ ∃ more, tail = '\n' :: more) := by
  by_cases hmem : '\n' ∈ rest
  · obtain ⟨raw, more, rfl, hraw⟩ := List.eq_append_cons_of_mem hmem
    exact ⟨raw, '\n' :: more, rfl, hraw, .inr ⟨more, rfl⟩⟩
  · exact ⟨rest, [], by simp, hmem, .inl rfl⟩

theorem lineCount_ofText (t : Text) : (ofText t).lineCount = t.count '\n' + 1 := by
  simp [lineCount, ofText]

theorem exists_lineText?_of_lt {line : Nat} (h : line < (ofText t).lineCount) :
    ∃ text, (ofText t).lineText? t line = some text ∧ '\n' ∉ text := by
  rw [lineCount_ofText] at h
  obtain ⟨above, rest, rfl, habove, rfl⟩ := exists_cut_of_le (Nat.le_of_lt_succ h)
  obtain ⟨raw, tail, rfl, hraw, htail⟩ := exists_raw rest
  obtain ⟨text, htext, hnew, -⟩ := exists_lineText? habove hraw htail
  exact ⟨text, htext, hnew⟩

theorem isSome_lineText?_iff {line : Nat} :
    ((ofText t).lineText? t line).isSome = true ↔ line < (ofText t).lineCount := by
  constructor
  · intro h
    by_contra hge
    rw [lineCount_ofText] at hge
    have hnone : (ofText t).lineStart? line = none := lineStart?_eq_none_iff.2 (by omega)
    simp [lineText?, hnone] at h
  · intro h
    obtain ⟨text, htext, -⟩ := exists_lineText?_of_lt h
    rw [htext]
    rfl

theorem newline_notMem_lineText? {line : Nat} {text : Text}
    (h : (ofText t).lineText? t line = some text) : '\n' ∉ text := by
  have hlt := isSome_lineText?_iff.1 (by rw [h]; rfl)
  obtain ⟨found, hfound, hnew⟩ := exists_lineText?_of_lt hlt
  rw [hfound] at h
  exact Option.some.inj h ▸ hnew

/-- Whether `raw` is what a line of a text says, up to a carriage return behind it. -/
def Says (table : LineTable) (t : Text) (line : Nat) (raw : Text) : Prop :=
  ∃ text, table.lineText? t line = some text ∧ (raw = text ∨ raw = text ++ ['\r'])

/-- The lines from some line on, with line feeds between them, are the rest of the text. -/
theorem exists_intercalate {above rest : Text} (habove : EndsLine above) (ht : t = above ++ rest) :
    ∃ raws, raws ≠ [] ∧ rest = ['\n'].intercalate raws ∧
      List.Forall₂ ((ofText t).Says t)
        (List.range' (above.count '\n') (rest.count '\n' + 1)) raws := by
  induction hn : rest.count '\n' generalizing above rest with
  | zero =>
    have hrest : '\n' ∉ rest := List.count_eq_zero.1 hn
    obtain ⟨text, htext, -, hraw⟩ := exists_lineText? habove hrest (.inl rfl)
    rw [List.append_nil, ← ht] at htext
    exact ⟨[rest], by simp, by simp, .cons ⟨text, htext, hraw⟩ .nil⟩
  | succ n ih =>
    have hmem : '\n' ∈ rest := List.count_pos_iff.1 (by omega)
    obtain ⟨raw, more, rfl, hraw⟩ := List.eq_append_cons_of_mem hmem
    have hzero : raw.count '\n' = 0 := List.count_eq_zero.2 hraw
    have hmore : more.count '\n' = n := by simpa [hzero] using hn
    have hnext : (above ++ (raw ++ ['\n'])).count '\n' = above.count '\n' + 1 := by simp [hzero]
    obtain ⟨raws, hne, hjoined, hsays⟩ := ih (habove.append (endsLine_append_newline raw))
      (by rw [ht]; simp) hmore
    obtain ⟨text, htext, -, hcut⟩ := exists_lineText? habove hraw (.inr ⟨more, rfl⟩)
    rw [← ht] at htext
    refine ⟨raw :: raws, by simp, ?_, ?_⟩
    · rw [List.intercalate_cons_of_ne_nil hne, ← hjoined]
      simp
    · rw [List.range'_succ]
      exact .cons ⟨text, htext, hcut⟩ (hnext ▸ hsays)

/-! ## Positions -/

theorem position_of_cut {above indent : Text} (habove : EndsLine above) (hindent : '\n' ∉ indent)
    (after : Text) :
    (ofText (above ++ indent ++ after)).position (above ++ indent ++ after)
        (byteLength (above ++ indent)) =
      { line := above.count '\n', character := indent.length
        offset := byteLength (above ++ indent) } := by
  have hzero : indent.count '\n' = 0 := List.count_eq_zero.2 hindent
  have hline : (ofText (above ++ indent ++ after)).lineOf (byteLength (above ++ indent)) =
      above.count '\n' := by
    rw [lineOf_byteLength, List.count_append, hzero, Nat.add_zero]
  have hstart : (ofText (above ++ indent ++ after)).lineStart? (above.count '\n') =
      some (byteLength above) := by
    rw [List.append_assoc]
    exact lineStart?_count habove _
  have hslice : (above ++ indent ++ after).slice? (byteLength above)
      (byteLength (above ++ indent)) = some indent :=
    slice?_eq_some_iff.2 ⟨above, after, rfl, rfl, byteLength_append above indent⟩
  simp only [position, hline, hstart, Option.getD_some, hslice]

/-- Every boundary of a character is behind some lines and the start of another. -/
theorem exists_cut_of_isBoundary {offset : Nat} (h : t.isBoundary offset = true) :
    ∃ above indent after, t = above ++ indent ++ after ∧ EndsLine above ∧ '\n' ∉ indent ∧
      byteLength (above ++ indent) = offset := by
  obtain ⟨before, after, rfl, rfl⟩ := isBoundary_iff.1 h
  obtain ⟨above, indent, rfl, habove, hindent⟩ := exists_endsLine_append before
  exact ⟨above, indent, after, rfl, habove, hindent, rfl⟩

theorem key_position_lt {a b : Nat} (hab : a < b) (ha : t.isBoundary a = true)
    (hb : t.isBoundary b = true) :
    ((ofText t).position t a).key < ((ofText t).position t b).key := by
  obtain ⟨above, indent, after, rfl, habove, hindent, rfl⟩ := exists_cut_of_isBoundary ha
  obtain ⟨before, rest, hcut, rfl⟩ := isBoundary_iff.1 hb
  obtain ⟨between, rfl, rfl⟩ := exists_append_of_byteLength_le hcut (Nat.le_of_lt hab)
  have hzero : indent.count '\n' = 0 := List.count_eq_zero.2 hindent
  rw [position_of_cut habove hindent, Position.key, Position.key, Prod.Lex.toLex_lt_toLex]
  by_cases hmem : '\n' ∈ between
  · -- A line feed between the places puts the second one on a later line.
    left
    have hpos := List.count_pos_iff.2 hmem
    have hline := lineOf_byteLength (above ++ indent ++ between) rest
    rw [List.append_assoc _ between] at hline
    simp only [position, hline, List.count_append, hzero]
    omega
  · right
    have hline : '\n' ∉ indent ++ between := by simp [hindent, hmem]
    have hposition := position_of_cut habove hline rest
    simp only [List.append_assoc] at hposition hab ⊢
    rw [hposition]
    refine ⟨rfl, ?_⟩
    have hne : between ≠ [] := by
      rintro rfl
      simp at hab
    have hlength := List.length_pos_iff.2 hne
    simp only [List.length_append]
    omega

/-- A place is found again from its line and its character. -/
theorem exists_advance {offset : Nat} (h : t.isBoundary offset = true) :
    ∃ start rest, (ofText t).lineStart? ((ofText t).position t offset).line = some start ∧
      t.after? start = some rest ∧ ((ofText t).position t offset).character ≤ rest.length ∧
      offset = start + byteLength (rest.take ((ofText t).position t offset).character) := by
  obtain ⟨above, indent, after, rfl, habove, hindent, rfl⟩ := exists_cut_of_isBoundary h
  rw [position_of_cut habove hindent]
  refine ⟨byteLength above, indent ++ after, ?_, ?_, by simp, by simp⟩
  · rw [List.append_assoc]
    exact lineStart?_count habove _
  · rw [after?_eq_map_splitAt?, List.append_assoc, splitAt?_append]
    rfl

/-! ## The table as a whole -/

/-- What a line table has to tell about a text. -/
structure Describes (table : LineTable) (t : Text) : Prop where
  /-- The line of an offset is the number of line feeds among the bytes before it, also behind the
      end of the text and inside of a character. -/
  lineOf_eq : ∀ offset, table.lineOf offset = ((Utf8.encode t).take offset).count 0x0A
  /-- An offset is on a line that starts there or before. -/
  start_le : ∀ offset, ∃ start,
    table.lineStart? (table.lineOf offset) = some start ∧ start ≤ offset
  /-- The next line, if there is one, starts behind the offset. -/
  lt_next : ∀ offset next, table.lineStart? (table.lineOf offset + 1) = some next → offset < next
  /-- Later lines start at later offsets. -/
  start_lt : ∀ a b start stop, a < b → table.lineStart? a = some start →
    table.lineStart? b = some stop → start < stop
  /-- No line starts inside of a character. -/
  isBoundary_start : ∀ line start, table.lineStart? line = some start → t.isBoundary start = true
  /-- Exactly the lines that are counted say something. -/
  isSome_lineText? : ∀ line, (table.lineText? t line).isSome = true ↔ line < table.lineCount
  /-- What a line says has no line feed. -/
  newline_notMem : ∀ line text, table.lineText? t line = some text → '\n' ∉ text
  /-- The text is what its lines say, each with at most one carriage return behind it, and with a
      line feed between each two of them. -/
  joined : ∃ raws, List.Forall₂ (table.Says t) (List.range table.lineCount) raws ∧
    t = ['\n'].intercalate raws
  /-- Later places in the text have later positions. -/
  key_lt : ∀ a b, a < b → t.isBoundary a = true → t.isBoundary b = true →
    (table.position t a).key < (table.position t b).key
  /-- A place is so many characters behind the start of its line as its position says. -/
  advance : ∀ offset, t.isBoundary offset = true → ∃ start rest,
    table.lineStart? (table.position t offset).line = some start ∧ t.after? start = some rest ∧
      (table.position t offset).character ≤ rest.length ∧
      offset = start + byteLength (rest.take (table.position t offset).character)

/-- The table of a text tells all this about it. -/
theorem ofText_describes (t : Text) : (ofText t).Describes t where
  lineOf_eq := lineOf_eq_count t
  start_le offset := by
    obtain ⟨start, hstart⟩ := exists_lineStart? t offset
    exact ⟨start, hstart, le_of_lineStart?_lineOf hstart⟩
  lt_next _ _ := lt_of_lineStart?_succ
  start_lt _ _ _ _ := lt_of_lineStart?
  isBoundary_start _ _ := isBoundary_of_lineStart?
  isSome_lineText? _ := isSome_lineText?_iff
  newline_notMem _ _ := newline_notMem_lineText?
  joined := by
    obtain ⟨raws, -, hjoined, hsays⟩ := exists_intercalate endsLine_nil (List.nil_append t).symm
    refine ⟨raws, ?_, hjoined⟩
    rw [lineCount_ofText, List.range_eq_range']
    exact hsays
  key_lt _ _ := key_position_lt
  advance _ := exists_advance

end LineTable

end ClassSpacing
