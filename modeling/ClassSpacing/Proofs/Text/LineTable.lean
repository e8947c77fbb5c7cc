import ClassSpacing.Proofs.Text.Lines
import ClassSpacing.Text.LineTable
import Mathlib.Order.Monotone.Defs
import Mathlib.Order.Nat

/-!
# Line tables and cuts

What a `LineTable` answers, said with cuts of the text: the line of an offset is the number of line
feeds before it, a line starts behind a part of the text that ends a line, and what a line says is
what stands between two line feeds. The offsets themselves then no longer matter.
-/

namespace ClassSpacing.LineTable

open Text

/-! ## Line starts -/

theorem startsAfter_append (offset : Nat) (s t : Text) :
    startsAfter offset (s ++ t) =
      startsAfter offset s ++ startsAfter (offset + byteLength s) t := by
  induction s generalizing offset with
  | nil => simp [startsAfter]
  | cons c s ih =>
    have hadd : offset + c.utf8Size + byteLength s = offset + (c.utf8Size + byteLength s) := by
      omega
    by_cases hc : c = '\n'
    · simp [startsAfter, hc, ih, Nat.add_assoc]
    · simp [startsAfter, hc, ih, hadd]

@[simp]
theorem length_startsAfter (offset : Nat) (t : Text) :
    (startsAfter offset t).length = t.count '\n' := by
  induction t generalizing offset with
  | nil => rfl
  | cons c t ih => by_cases hc : c = '\n' <;> simp [startsAfter, hc, ih]

theorem mem_startsAfter {offset start : Nat} {t : Text} (h : start ∈ startsAfter offset t) :
    offset < start ∧ start ≤ offset + byteLength t := by
  induction t generalizing offset with
  | nil => simp [startsAfter] at h
  | cons c t ih =>
    have hpos := c.utf8Size_pos
    rw [startsAfter] at h
    simp only [byteLength_cons]
    split at h
    · rcases List.mem_cons.1 h with rfl | h
      · omega
      · have := ih h
        omega
    · have := ih h
      omega

/-- Behind a part that ends a line, the last line start is at its end. -/
theorem getLast?_startsAfter {t : Text} (h : EndsLine t) (offset : Nat) :
    (offset :: startsAfter offset t).getLast? = some (offset + byteLength t) := by
  rcases h.eq_nil_or_snoc with rfl | ⟨top, line, rfl, -, -⟩
  · simp [startsAfter]
  · rw [← List.append_assoc, startsAfter_append]
    have hlast : startsAfter (offset + byteLength (top ++ line)) ['\n'] =
        [offset + byteLength (top ++ line) + 1] := by
      simp [startsAfter, Char.utf8Size]
    rw [hlast, ← List.cons_append, List.getLast?_append]
    simp [Nat.add_assoc, Char.utf8Size]

/-- A line starts behind every part of the text that ends a line. -/
theorem lineStart?_count {above : Text} (h : EndsLine above) (rest : Text) :
    (ofText (above ++ rest)).lineStart? (above.count '\n') = some (byteLength above) := by
  have hlen : above.count '\n' < (0 :: startsAfter 0 above).length := by simp
  rw [lineStart?, ofText, startsAfter_append, ← List.cons_append, List.getElem?_append_left hlen]
  have hlast := getLast?_startsAfter h 0
  rw [List.getLast?_eq_getElem?] at hlast
  simpa using hlast

/-- A text has a cut at each of its lines. -/
theorem exists_cut_of_le {line : Nat} {t : Text} (h : line ≤ t.count '\n') :
    ∃ above rest, t = above ++ rest ∧ EndsLine above ∧ above.count '\n' = line := by
  induction line generalizing t with
  | zero => exact ⟨[], t, rfl, by simp, rfl⟩
  | succ line ih =>
    have hmem : '\n' ∈ t := List.count_pos_iff.1 (by omega)
    obtain ⟨first, rest, rfl, hfirst⟩ := List.eq_append_cons_of_mem hmem
    have hzero : first.count '\n' = 0 := List.count_eq_zero.2 hfirst
    have hrest : line ≤ rest.count '\n' := by
      simp only [List.count_append, List.count_cons_self, hzero] at h
      omega
    obtain ⟨above, rest, rfl, habove, hcount⟩ := ih hrest
    refine ⟨first ++ ['\n'] ++ above, rest, by simp, (endsLine_append_newline _).append habove, ?_⟩
    simp [hzero, hcount]

/-- The lines that start are exactly the cuts behind a part that ends a line. -/
theorem lineStart?_eq_some_iff {t : Text} {line start : Nat} :
    (ofText t).lineStart? line = some start ↔
      ∃ above rest, t = above ++ rest ∧ EndsLine above ∧ above.count '\n' = line ∧
        byteLength above = start := by
  constructor
  · intro h
    have hlt : line < (ofText t).starts.length := by
      by_contra hge
      rw [lineStart?, List.getElem?_eq_none (by omega)] at h
      simp at h
    have hle : line ≤ t.count '\n' := by
      simp only [ofText, List.length_cons, length_startsAfter] at hlt
      omega
    obtain ⟨above, rest, rfl, habove, rfl⟩ := exists_cut_of_le hle
    rw [lineStart?_count habove] at h
    exact ⟨above, rest, rfl, habove, rfl, by simpa using h⟩
  · rintro ⟨above, rest, rfl, habove, rfl, rfl⟩
    exact lineStart?_count habove rest

theorem lineStart?_eq_none_iff {t : Text} {line : Nat} :
    (ofText t).lineStart? line = none ↔ t.count '\n' < line := by
  rw [lineStart?, List.getElem?_eq_none_iff, ofText, List.length_cons, length_startsAfter]
  omega

/-! ## The line of an offset -/

theorem lineOf_mono (t : Text) : Monotone (ofText t).lineOf := by
  intro a b hab
  refine Nat.sub_le_sub_right (List.countP_mono_left fun start _ hstart => ?_) 1
  simp only [decide_eq_true_eq] at hstart ⊢
  omega

/-- The line of an offset is the number of line feeds before it. -/
theorem lineOf_byteLength (before after : Text) :
    (ofText (before ++ after)).lineOf (byteLength before) = before.count '\n' := by
  have hbefore : (startsAfter 0 before).countP (· ≤ byteLength before) = before.count '\n' := by
    rw [← length_startsAfter 0 before, List.countP_eq_length]
    intro start hstart
    have := mem_startsAfter hstart
    simp
    omega
  have hafter : (startsAfter (byteLength before) after).countP (· ≤ byteLength before) = 0 := by
    rw [List.countP_eq_zero]
    intro start hstart
    have := mem_startsAfter hstart
    simp
    omega
  rw [lineOf, ofText, startsAfter_append]
  simp [hbefore, hafter]

/-- The line feeds of a slice lead from the line of its start to the line of its end. -/
theorem lineOf_stop_of_slice? {source text : Text} {start stop : Nat}
    (h : source.slice? start stop = some text) :
    (ofText source).lineOf stop = (ofText source).lineOf start + text.count '\n' := by
  obtain ⟨before, after, rfl, rfl, rfl⟩ := slice?_eq_some_iff.1 h
  have hstart := lineOf_byteLength before (text ++ after)
  have hstop := lineOf_byteLength (before ++ text) after
  rw [← List.append_assoc] at hstart
  rw [byteLength_append, List.count_append] at hstop
  rw [hstart, hstop]

theorem lineOf_of_lineStart? {t : Text} {line start : Nat}
    (h : (ofText t).lineStart? line = some start) : (ofText t).lineOf start = line := by
  obtain ⟨above, rest, rfl, -, rfl, rfl⟩ := lineStart?_eq_some_iff.1 h
  exact lineOf_byteLength above rest

/-- Later lines start at later places. -/
theorem le_of_lineStart? {t : Text} {a b start stop : Nat} (hab : a ≤ b)
    (ha : (ofText t).lineStart? a = some start) (hb : (ofText t).lineStart? b = some stop) :
    start ≤ stop := by
  by_contra hlt
  have hmono := lineOf_mono t (Nat.le_of_not_le hlt)
  rw [lineOf_of_lineStart? ha, lineOf_of_lineStart? hb] at hmono
  obtain rfl : a = b := by omega
  rw [ha] at hb
  exact hlt (Nat.le_of_eq (Option.some.inj hb))

theorem lineOf_le_count (t : Text) (offset : Nat) : (ofText t).lineOf offset ≤ t.count '\n' := by
  have hle := List.countP_le_length (p := fun start => decide (start ≤ offset))
    (l := (ofText t).starts)
  simp only [lineOf, ofText, List.length_cons, length_startsAfter] at hle ⊢
  omega

/-- A place is on a line that starts. -/
theorem exists_lineStart? (t : Text) (offset : Nat) :
    ∃ start, (ofText t).lineStart? ((ofText t).lineOf offset) = some start := by
  refine Option.isSome_iff_exists.1 (Option.isSome_iff_ne_none.2 fun hnone => ?_)
  have hlt := lineStart?_eq_none_iff.1 hnone
  have hle := lineOf_le_count t offset
  omega

/-- A place does not come before the start of its line. -/
theorem le_of_lineStart?_lineOf {t : Text} {offset start : Nat}
    (h : (ofText t).lineStart? ((ofText t).lineOf offset) = some start) : start ≤ offset := by
  obtain ⟨above, rest, rfl, habove, hcount, rfl⟩ := lineStart?_eq_some_iff.1 h
  rcases habove.eq_nil_or_snoc with rfl | ⟨top, line, rfl, -, hline⟩
  · exact Nat.zero_le _
  · by_contra hlt
    -- A place before the last line feed above is on an earlier line.
    have hle : offset ≤ byteLength (top ++ line) := by
      have hone : '\n'.utf8Size = 1 := rfl
      simp only [byteLength_append, byteLength_cons, byteLength_nil, hone] at hlt ⊢
      omega
    have hmono := lineOf_mono ((top ++ line) ++ '\n' :: rest) hle
    rw [lineOf_byteLength] at hmono
    simp only [List.append_assoc, List.cons_append, List.nil_append, List.count_append,
      List.count_cons_self, List.count_nil] at hmono hcount
    omega

/-! ## What a line says -/

/-- A line with a line feed says what stands before the line feed, without a carriage return. -/
theorem lineText?_of_cut {above line : Text} (h : EndsLine above) (hline : '\n' ∉ line)
    (rest : Text) :
    (ofText (above ++ (line ++ '\n' :: rest))).lineText? (above ++ (line ++ '\n' :: rest))
      (above.count '\n') = some line.dropTrailingReturn := by
  have hzero : line.count '\n' = 0 := List.count_eq_zero.2 hline
  have hnext : (ofText (above ++ (line ++ '\n' :: rest))).lineStart? (above.count '\n' + 1) =
      some (byteLength above + byteLength line + 1) := by
    have hcut := lineStart?_count (h.append (endsLine_append_newline line)) rest
    simp only [List.append_assoc, List.singleton_append, List.count_append, hzero,
      List.count_singleton_self, byteLength_append, byteLength_cons, byteLength_nil,
      Nat.zero_add] at hcut
    rw [hcut]
    simp [Char.utf8Size, Nat.add_assoc]
  have hslice : (above ++ (line ++ '\n' :: rest)).slice? (byteLength above)
      (byteLength above + byteLength line) = some line :=
    slice?_eq_some_iff.2 ⟨above, '\n' :: rest, by simp, rfl, rfl⟩
  simp [lineText?, lineStart?_count h, hnext, hslice]

/-- The last line says what comes behind the last line feed. -/
theorem lineText?_of_last {above line : Text} (h : EndsLine above) (hline : '\n' ∉ line) :
    (ofText (above ++ line)).lineText? (above ++ line) (above.count '\n') =
      some line.dropTrailingReturn := by
  have hzero : line.count '\n' = 0 := List.count_eq_zero.2 hline
  have hnext : (ofText (above ++ line)).lineStart? (above.count '\n' + 1) = none :=
    lineStart?_eq_none_iff.2 (by simp [hzero])
  have hslice : (above ++ line).slice? (byteLength above) (byteLength above + byteLength line) =
      some line :=
    slice?_eq_some_iff.2 ⟨above, [], by simp, rfl, rfl⟩
  simp [lineText?, lineStart?_count h, hnext, hslice]

/-! ## Terminators -/

theorem newline_eq (table : LineTable) : ∃ line, table.newline = line ++ ['\n'] ∧ '\n' ∉ line ∧
    isBlank line = true := by
  unfold newline
  split
  · exact ⟨['\r'], rfl, by decide, by decide⟩
  · exact ⟨[], rfl, by decide, by decide⟩

end ClassSpacing.LineTable
