import ClassSpacing.Proofs.Text.LineTable
import Mathlib.Order.Monotone.Basic
import Mathlib.Order.Nat

/-!
# Lines that end in a carriage return and a line feed

`Text.crlf` puts a carriage return before each line feed of a text. Every place moves behind as many
bytes as there are line feeds before it (`Text.crlfOffset`), also a place inside a character or past
the end. Cuts, slices and lines are found at the moved places as they were before; only the carriage
returns come in, and no line of a text without carriage returns is told from the new one.
-/

namespace ClassSpacing

namespace Text

/-! ## The text -/

/-- The text with a carriage return before each line feed. -/
def crlf (t : Text) : Text :=
  t.flatMap fun c => if c = '\n' then ['\r', '\n'] else [c]

@[simp]
theorem crlf_nil : crlf [] = [] := rfl

@[simp]
theorem crlf_newline (t : Text) : crlf ('\n' :: t) = '\r' :: '\n' :: crlf t := rfl

theorem crlf_cons_of_ne {c : Char} (h : c ≠ '\n') (t : Text) : crlf (c :: t) = c :: crlf t := by
  simp [crlf, h]

@[simp]
theorem crlf_append (s t : Text) : crlf (s ++ t) = crlf s ++ crlf t := by
  simp [crlf]

/-- A text of one line stays as it is. -/
theorem crlf_eq_self {t : Text} (h : '\n' ∉ t) : crlf t = t := by
  induction t with
  | nil => rfl
  | cons c t ih =>
    rw [List.mem_cons, not_or] at h
    rw [crlf_cons_of_ne (Ne.symm h.1), ih h.2]

@[simp]
theorem byteLength_crlf (t : Text) : byteLength (crlf t) = byteLength t + t.count '\n' := by
  induction t with
  | nil => rfl
  | cons c t ih =>
    by_cases hc : c = '\n'
    · subst hc
      have hreturn : '\r'.utf8Size = 1 := rfl
      simp only [crlf_newline, byteLength_cons, ih, List.count_cons_self, hreturn]
      omega
    · rw [crlf_cons_of_ne hc, byteLength_cons, byteLength_cons, ih, List.count_cons_of_ne hc]
      omega

@[simp]
theorem count_crlf (t : Text) : (crlf t).count '\n' = t.count '\n' := by
  induction t with
  | nil => rfl
  | cons c t ih =>
    by_cases hc : c = '\n'
    · subst hc
      simp [ih]
    · rw [crlf_cons_of_ne hc, List.count_cons_of_ne hc, List.count_cons_of_ne hc, ih]

@[simp]
theorem isBlank_crlf (t : Text) : isBlank (crlf t) = isBlank t := by
  induction t with
  | nil => rfl
  | cons c t ih =>
    by_cases hc : c = '\n'
    · subst hc
      simp [isBlank_cons, ih]
    · rw [crlf_cons_of_ne hc, isBlank_cons, isBlank_cons, ih]

theorem crlf_eq_nil_iff {t : Text} : crlf t = [] ↔ t = [] := by
  constructor
  · intro h
    by_contra hne
    have hpos := byteLength_pos hne
    have hlen := byteLength_crlf t
    rw [h, byteLength_nil] at hlen
    omega
  · rintro rfl
    rfl

/-- Without the carriage returns, the text is what it was. -/
theorem filter_crlf {t : Text} (h : '\r' ∉ t) : (crlf t).filter (· != '\r') = t := by
  induction t with
  | nil => rfl
  | cons c t ih =>
    rw [List.mem_cons, not_or] at h
    by_cases hc : c = '\n'
    · subst hc
      simp [ih h.2]
    · have hne : c ≠ '\r' := Ne.symm h.1
      rw [crlf_cons_of_ne hc, List.filter_cons_of_pos (by simpa using hne), ih h.2]

theorem crlf_inj {s t : Text} (hs : '\r' ∉ s) (ht : '\r' ∉ t) : crlf s = crlf t ↔ s = t := by
  constructor
  · intro h
    rw [← filter_crlf hs, h, filter_crlf ht]
  · rintro rfl
    rfl

theorem EndsLine.crlf {t : Text} (h : EndsLine t) : EndsLine (crlf t) := by
  rcases h.eq_nil_or_snoc with rfl | ⟨top, line, rfl, -, -⟩
  · exact endsLine_nil
  · have hsnoc : Text.crlf (top ++ (line ++ ['\n'])) =
        (Text.crlf top ++ (Text.crlf line ++ ['\r'])) ++ ['\n'] := by
      simp
    rw [hsnoc]
    exact endsLine_append_newline _

theorem crlf_repeated (t : Text) (count : Nat) : crlf (t.repeated count) = t.crlf.repeated count := by
  induction count with
  | zero => rfl
  | succ count ih =>
    simp only [repeated, List.replicate_succ, List.flatten_cons, crlf_append] at ih ⊢
    rw [ih]

/-! ## The places -/

/-- Where a place goes: behind the carriage returns of the line feeds before it. -/
def crlfOffset (t : Text) (offset : Nat) : Nat :=
  offset + (LineTable.ofText t).lineOf offset

theorem crlfOffset_strictMono (t : Text) : StrictMono t.crlfOffset := by
  intro a b hab
  have hline := LineTable.lineOf_mono t (Nat.le_of_lt hab)
  simp only [crlfOffset]
  omega

theorem crlfOffset_le_iff (t : Text) {a b : Nat} : t.crlfOffset a ≤ t.crlfOffset b ↔ a ≤ b :=
  t.crlfOffset_strictMono.le_iff_le

theorem crlfOffset_lt_iff (t : Text) {a b : Nat} : t.crlfOffset a < t.crlfOffset b ↔ a < b :=
  t.crlfOffset_strictMono.lt_iff_lt

theorem crlfOffset_inj (t : Text) {a b : Nat} : t.crlfOffset a = t.crlfOffset b ↔ a = b :=
  t.crlfOffset_strictMono.injective.eq_iff

theorem startsAfter_add (offset distance : Nat) (t : Text) :
    LineTable.startsAfter (offset + distance) t =
      (LineTable.startsAfter offset t).map (· + distance) := by
  induction t generalizing offset with
  | nil => rfl
  | cons c t ih =>
    have hnext : offset + distance + c.utf8Size = offset + c.utf8Size + distance := by omega
    rw [LineTable.startsAfter, LineTable.startsAfter, hnext, ih]
    split <;> rfl

/-- The line of a place in the second part of a text. -/
theorem lineOf_append (s t : Text) (offset : Nat) :
    (LineTable.ofText (s ++ t)).lineOf (byteLength s + offset) =
      s.count '\n' + (LineTable.ofText t).lineOf offset := by
  have hfront : (LineTable.startsAfter 0 s).countP (· ≤ byteLength s + offset) = s.count '\n' := by
    rw [← LineTable.length_startsAfter 0 s, List.countP_eq_length]
    intro start hstart
    have := LineTable.mem_startsAfter hstart
    simp
    omega
  have hback : (LineTable.startsAfter (0 + byteLength s) t).countP (· ≤ byteLength s + offset) =
      (LineTable.startsAfter 0 t).countP (· ≤ offset) := by
    rw [startsAfter_add, List.countP_map]
    refine List.countP_congr fun start _ => ?_
    simp
    omega
  simp only [LineTable.lineOf, LineTable.ofText, LineTable.startsAfter_append, List.countP_cons,
    List.countP_append, hfront, hback]
  simp

/-- Before the end of the first character of a text there is no line feed. -/
theorem lineOf_of_lt {c : Char} {offset : Nat} (h : offset < c.utf8Size) (t : Text) :
    (LineTable.ofText (c :: t)).lineOf offset = 0 := by
  have hnone : (LineTable.startsAfter 0 (c :: t)).countP (· ≤ offset) = 0 := by
    rw [List.countP_eq_zero]
    intro start hstart
    rw [LineTable.startsAfter, Nat.zero_add] at hstart
    split at hstart
    · rcases List.mem_cons.1 hstart with rfl | hstart
      · simpa using h
      · have := LineTable.mem_startsAfter hstart
        simp
        omega
    · have := LineTable.mem_startsAfter hstart
      simp
      omega
  simp only [LineTable.lineOf, LineTable.ofText, List.countP_cons, hnone]
  simp

theorem crlfOffset_append (s t : Text) (offset : Nat) :
    (s ++ t).crlfOffset (byteLength s + offset) = byteLength (crlf s) + t.crlfOffset offset := by
  simp only [crlfOffset, lineOf_append, byteLength_crlf]
  omega

/-- The end of the first part of a text. -/
theorem crlfOffset_byteLength (s t : Text) :
    (s ++ t).crlfOffset (byteLength s) = byteLength (crlf s) := by
  simp only [crlfOffset, LineTable.lineOf_byteLength, byteLength_crlf]

@[simp]
theorem crlfOffset_zero (t : Text) : t.crlfOffset 0 = 0 :=
  crlfOffset_byteLength [] t

/-! ## Cuts and slices -/

theorem splitAt?_cons (c : Char) (t : Text) (offset : Nat) :
    splitAt? (c :: t) (c.utf8Size + offset) =
      (splitAt? t offset).map fun (before, after) => (c :: before, after) := by
  have hpos := c.utf8Size_pos
  obtain ⟨n, hn⟩ : ∃ n, c.utf8Size + offset = n + 1 := ⟨c.utf8Size + offset - 1, by omega⟩
  have hrest : n + 1 - c.utf8Size = offset := by omega
  rw [hn, splitAt?, if_pos (by omega), hrest]

/-- A text is cut at a moved place as it was cut there before, and not cut where it was not. -/
theorem splitAt?_crlf (t : Text) (offset : Nat) :
    t.crlf.splitAt? (t.crlfOffset offset) = (t.splitAt? offset).map (Prod.map crlf crlf) := by
  fun_induction splitAt? t offset with
  | case1 t =>
    rw [crlfOffset_zero]
    exact splitAt?_append [] (crlf t)
  | case2 n => rfl
  | case3 c rest n fits ih =>
    have hmove := crlfOffset_append [c] rest (n + 1 - c.utf8Size)
    have hsize : byteLength [c] + (n + 1 - c.utf8Size) = n + 1 := by simp; omega
    rw [List.singleton_append, hsize] at hmove
    rw [hmove]
    by_cases hc : c = '\n'
    · subst hc
      have hlen : byteLength (crlf ['\n']) + crlfOffset rest (n + 1 - '\n'.utf8Size) =
          '\r'.utf8Size + ('\n'.utf8Size + crlfOffset rest (n + 1 - '\n'.utf8Size)) := by
        simp [Nat.add_assoc]
      rw [hlen, crlf_newline, splitAt?_cons, splitAt?_cons, ih]
      simp [Function.comp_def]
    · have hlen : byteLength (crlf [c]) = c.utf8Size := by simp [crlf_cons_of_ne hc]
      rw [hlen, crlf_cons_of_ne hc, splitAt?_cons, ih]
      simp [Function.comp_def, crlf_cons_of_ne hc]
  | case4 c rest n fits =>
    -- The place is inside the first character, which is longer than a line feed.
    have hc : c ≠ '\n' := by
      rintro rfl
      exact fits (by simp [Char.utf8Size])
    rw [crlfOffset, lineOf_of_lt (by omega), Nat.add_zero, crlf_cons_of_ne hc, splitAt?,
      if_neg fits]
    rfl

theorem after?_crlf (t : Text) (offset : Nat) :
    t.crlf.after? (t.crlfOffset offset) = (t.after? offset).map crlf := by
  rw [after?_eq_map_splitAt?, after?_eq_map_splitAt?, splitAt?_crlf, Option.map_map, Option.map_map]
  rfl

/-- A slice between moved places. -/
theorem slice?_crlf (t : Text) (start stop : Nat) :
    t.crlf.slice? (t.crlfOffset start) (t.crlfOffset stop) = (t.slice? start stop).map crlf := by
  simp only [slice?, t.crlfOffset_lt_iff, after?_crlf]
  split
  · rfl
  · rename_i horder
    cases hafter : t.after? start with
    | none => rfl
    | some rest =>
      rw [after?_eq_map_splitAt?] at hafter
      obtain ⟨⟨before, rest'⟩, hcut, rfl⟩ := Option.map_eq_some_iff.1 hafter
      obtain ⟨rfl, rfl⟩ := eq_append_of_splitAt? hcut
      obtain ⟨distance, rfl⟩ : ∃ distance, stop = byteLength before + distance :=
        ⟨stop - byteLength before, by omega⟩
      have hdistance : (before ++ rest').crlfOffset (byteLength before + distance) -
          (before ++ rest').crlfOffset (byteLength before) = rest'.crlfOffset distance := by
        rw [crlfOffset_append, crlfOffset_byteLength]
        omega
      simp only [Option.map_some, Option.bind_eq_bind, Option.bind_some, hdistance, splitAt?_crlf,
        Nat.add_sub_cancel_left]
      cases splitAt? rest' distance <;> rfl

end Text

/-- A place with its offset moved. It keeps its line and character. -/
def Position.crlf (t : Text) (p : Position) : Position :=
  { p with offset := t.crlfOffset p.offset }

/-! ## Lines -/

namespace LineTable

open Text

theorem lineStart?_crlf (t : Text) (line : Nat) :
    (ofText t.crlf).lineStart? line = ((ofText t).lineStart? line).map t.crlfOffset := by
  by_cases hline : line ≤ t.count '\n'
  · obtain ⟨above, rest, rfl, habove, rfl⟩ := exists_cut_of_le hline
    have hstart := lineStart?_count habove.crlf rest.crlf
    rw [count_crlf, ← crlf_append] at hstart
    rw [hstart, lineStart?_count habove, Option.map_some, crlfOffset_byteLength]
  · have hnone := lineStart?_eq_none_iff.2 (Nat.lt_of_not_le hline)
    rw [hnone, lineStart?_eq_none_iff.2 (by rw [count_crlf]; omega)]
    rfl

theorem starts_crlf (t : Text) : (ofText t.crlf).starts = (ofText t).starts.map t.crlfOffset := by
  refine List.ext_getElem? fun line => ?_
  rw [List.getElem?_map]
  exact lineStart?_crlf t line

/-- A moved place is on the same line. -/
theorem lineOf_crlf (t : Text) (offset : Nat) :
    (ofText t.crlf).lineOf (t.crlfOffset offset) = (ofText t).lineOf offset := by
  rw [lineOf, starts_crlf, List.countP_map, lineOf]
  congr 2
  funext start
  simp [t.crlfOffset_le_iff]

theorem dropTrailingReturn_eq_self {t : Text} (h : '\r' ∉ t) : t.dropTrailingReturn = t := by
  unfold dropTrailingReturn
  split
  · rename_i hlast
    exact absurd (List.mem_of_getLast? hlast) h
  · rfl

theorem dropTrailingReturn_snoc (t : Text) : dropTrailingReturn (t ++ ['\r']) = t := by
  simp [dropTrailingReturn]

/-- The lines of a text without carriage returns say the same afterwards. -/
theorem lineText?_crlf {t : Text} (h : '\r' ∉ t) (line : Nat) :
    (ofText t.crlf).lineText? t.crlf line = (ofText t).lineText? t line := by
  by_cases hline : line ≤ t.count '\n'
  · obtain ⟨above, rest, rfl, habove, rfl⟩ := exists_cut_of_le hline
    have hrest : '\r' ∉ rest := fun hmem => h (List.mem_append_right _ hmem)
    by_cases hmem : '\n' ∈ rest
    · obtain ⟨text, rest, rfl, htext⟩ := List.eq_append_cons_of_mem hmem
      have hfree : '\r' ∉ text := fun hmem => hrest (List.mem_append_left _ hmem)
      have hcrlf := lineText?_of_cut habove.crlf
        (show '\n' ∉ text ++ ['\r'] by simp [htext]) (Text.crlf rest)
      have heq : Text.crlf (above ++ (text ++ '\n' :: rest)) =
          above.crlf ++ ((text ++ ['\r']) ++ '\n' :: Text.crlf rest) := by
        simp [crlf_eq_self htext]
      rw [count_crlf, ← heq, dropTrailingReturn_snoc] at hcrlf
      rw [hcrlf, lineText?_of_cut habove htext, dropTrailingReturn_eq_self hfree]
    · have hcrlf := lineText?_of_last habove.crlf hmem
      rw [count_crlf] at hcrlf
      rw [crlf_append, crlf_eq_self hmem, hcrlf, lineText?_of_last habove hmem]
  · have hnone := lineStart?_eq_none_iff.2 (Nat.lt_of_not_le hline)
    simp [lineText?, lineStart?_crlf, hnone]

/-- A text without carriage returns gets plain line feeds. -/
theorem newline_of_not_mem {t : Text} (h : '\r' ∉ t) : (ofText t).newline = ['\n'] := by
  have hlast : (t.takeWhile (· != '\n')).getLast? ≠ some '\r' := fun hlast =>
    h ((List.takeWhile_prefix _).subset (List.mem_of_getLast? hlast))
  have hcrlf : (ofText t).crlf = false := by
    simp [ofText, endsLinesWithReturn, hlast]
  rw [newline, hcrlf]
  rfl

/-- Lines that are inserted get the terminator of the others, if there are any. -/
theorem newline_crlf {t : Text} (h : '\r' ∉ t) (hmem : '\n' ∈ t) :
    (ofText t.crlf).newline = (ofText t).newline.crlf := by
  obtain ⟨first, rest, rfl, hfirst⟩ := List.eq_append_cons_of_mem hmem
  have heq : Text.crlf (first ++ '\n' :: rest) = (first ++ ['\r']) ++ '\n' :: Text.crlf rest := by
    simp [crlf_eq_self hfirst]
  have htake : ((first ++ ['\r']) ++ '\n' :: Text.crlf rest).takeWhile (· != '\n') =
      first ++ ['\r'] := by
    have hline : ∀ c ∈ first ++ ['\r'], (c != '\n') = true := by
      intro c hc
      rw [bne_iff_ne]
      rintro rfl
      simp [hfirst] at hc
    rw [List.takeWhile_append_of_pos hline]
    simp
  have hcrlf : (ofText (Text.crlf (first ++ '\n' :: rest))).crlf = true := by
    rw [heq]
    simp only [ofText, endsLinesWithReturn, htake]
    simp
  rw [newline_of_not_mem h, newline, hcrlf]
  rfl

/-- Between the start of a line and a place on it there is no line feed. -/
theorem not_mem_of_slice? {t before : Text} {start offset : Nat}
    (hstart : (ofText t).lineStart? ((ofText t).lineOf offset) = some start)
    (h : t.slice? start offset = some before) : '\n' ∉ before := by
  obtain ⟨above, rest, hcut, -, hcount, hlen⟩ := lineStart?_eq_some_iff.1 hstart
  obtain ⟨front, after, hsource, hfront, rfl⟩ := slice?_eq_some_iff.1 h
  have heq : above ++ rest = front ++ (before ++ after) := by
    rw [← hcut, hsource, List.append_assoc]
  obtain ⟨rfl, -⟩ := append_inj_of_byteLength heq (hlen.trans hfront.symm)
  have hline := lineOf_byteLength (above ++ before) after
  rw [← hsource, byteLength_append, hlen, ← hcount, List.count_append] at hline
  exact List.count_eq_zero.1 (by omega)

/-- A moved place has the same line and character. -/
theorem position_crlf (t : Text) (offset : Nat) :
    (ofText t.crlf).position t.crlf (t.crlfOffset offset) =
      ((ofText t).position t offset).crlf t := by
  obtain ⟨start, hstart⟩ := exists_lineStart? t offset
  have hline := lineOf_of_lineStart? hstart
  simp only [position, Position.crlf, lineOf_crlf, lineStart?_crlf, hstart, Option.map_some,
    Option.getD_some, slice?_crlf, Position.mk.injEq, true_and, and_true]
  cases hslice : t.slice? start offset with
  | none =>
    simp only [Option.map_none, crlfOffset, hline]
    omega
  | some before =>
    rw [Option.map_some, crlf_eq_self (not_mem_of_slice? hstart hslice)]

end LineTable

end ClassSpacing
