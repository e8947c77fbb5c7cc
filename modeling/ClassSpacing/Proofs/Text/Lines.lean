import ClassSpacing.Text.Blank
import Mathlib.Data.List.Induction

/-!
# Texts as lines

`Text.lines` cuts a text behind each line feed. A text that *ends a line* is empty or ends in a line
feed; the lines of two texts one after the other are those of the first and those of the second
exactly when the first one ends a line. All statements about inserted and deleted lines rest on
this.
-/

namespace ClassSpacing.Text

/-! ## Cutting a text -/

/-- Where two ways to cut a text disagree, the longer first part continues the shorter one. -/
theorem exists_append_of_byteLength_le {a b c d : Text} (h : a ++ b = c ++ d)
    (hle : byteLength a ≤ byteLength c) : ∃ x, c = a ++ x ∧ b = x ++ d := by
  rcases List.append_eq_append_iff.1 h with ⟨x, hc, hb⟩ | ⟨x, ha, hd⟩
  · exact ⟨x, hc, hb⟩
  · subst ha
    cases x with
    | nil => exact ⟨[], by simp, by simpa using hd.symm⟩
    | cons e x =>
      have := e.utf8Size_pos
      simp only [byteLength_append, byteLength_cons] at hle
      omega

/-- Two first parts of a text with the same number of bytes are the same. -/
theorem append_inj_of_byteLength {a b c d : Text} (h : a ++ b = c ++ d)
    (hlen : byteLength a = byteLength c) : a = c ∧ b = d := by
  obtain ⟨x, hc, hb⟩ := exists_append_of_byteLength_le h (Nat.le_of_eq hlen)
  cases x with
  | nil => exact ⟨by simpa using hc.symm, by simpa using hb⟩
  | cons e x =>
    have := e.utf8Size_pos
    simp only [hc, byteLength_append, byteLength_cons] at hlen
    omega

/-- What stands behind two places does not matter to what stands between them. -/
theorem slice?_append_of_le {s t : Text} {start stop : Nat} (h : stop ≤ byteLength s) :
    slice? (s ++ t) start stop = slice? s start stop := by
  refine Option.ext fun mid => ?_
  rw [slice?_eq_some_iff, slice?_eq_some_iff]
  constructor
  · rintro ⟨before, after, hcut, rfl, rfl⟩
    rw [← byteLength_append] at h
    obtain ⟨x, rfl, -⟩ := exists_append_of_byteLength_le hcut.symm h
    exact ⟨before, x, rfl, rfl, rfl⟩
  · rintro ⟨before, after, rfl, rfl, rfl⟩
    exact ⟨before, after ++ t, by simp, rfl, rfl⟩

theorem isBoundary_iff {t : Text} {offset : Nat} :
    t.isBoundary offset = true ↔
      ∃ before after, t = before ++ after ∧ before.byteLength = offset := by
  rw [isBoundary, after?_eq_map_splitAt?, Option.isSome_map]
  constructor
  · intro h
    obtain ⟨⟨before, after⟩, hcut⟩ := Option.isSome_iff_exists.1 h
    exact ⟨before, after, eq_append_of_splitAt? hcut⟩
  · rintro ⟨before, after, rfl, rfl⟩
    rw [splitAt?_append]
    rfl

theorem byteLength_pos {t : Text} (h : t ≠ []) : 0 < byteLength t := by
  obtain ⟨c, rest, rfl⟩ := List.exists_cons_of_ne_nil h
  have := c.utf8Size_pos
  simp only [byteLength_cons]
  omega

/-! ## White space -/

@[simp]
theorem isBlank_nil : isBlank [] = true := rfl

@[simp]
theorem isBlank_append (s t : Text) : isBlank (s ++ t) = (isBlank s && isBlank t) :=
  List.all_append

theorem isBlank_cons (c : Char) (t : Text) : isBlank (c :: t) = (isSpace c && isBlank t) :=
  rfl

theorem isSpace_of_mem {t : Text} (h : isBlank t = true) {c : Char} (hc : c ∈ t) :
    isSpace c = true :=
  List.all_eq_true.1 h c hc

@[simp]
theorem isSpace_newline : isSpace '\n' = true := by decide

@[simp]
theorem isSpace_return : isSpace '\r' = true := by decide

/-- A carriage return at the end does not decide whether a text is blank. -/
@[simp]
theorem isBlank_dropTrailingReturn (t : Text) : isBlank t.dropTrailingReturn = isBlank t := by
  unfold dropTrailingReturn
  split
  · rename_i hlast
    obtain ⟨front, rfl⟩ := List.getLast?_eq_some_iff.1 hlast
    simp [isBlank_cons]
  · rfl

/-! ## Where lines end -/

/-- Whether a text ends where a line does. -/
def EndsLine (t : Text) : Prop :=
  ∀ c ∈ t.getLast?, c = '\n'

@[simp]
theorem endsLine_nil : EndsLine [] := by simp [EndsLine]

@[simp]
theorem endsLine_append_newline (t : Text) : EndsLine (t ++ ['\n']) := by simp [EndsLine]

theorem EndsLine.append {s t : Text} (hs : EndsLine s) (ht : EndsLine t) : EndsLine (s ++ t) := by
  intro c hc
  cases t with
  | nil => exact hs c (by simpa using hc)
  | cons e t => exact ht c (by simpa using hc)

theorem EndsLine.of_append {s t : Text} (h : EndsLine (s ++ t)) : EndsLine t := by
  intro c hc
  cases t with
  | nil => simp at hc
  | cons e t => exact h c (by simpa using hc)

/-- What ends a line without a line feed in it is empty. -/
theorem EndsLine.eq_nil {t : Text} (h : EndsLine t) (hnew : '\n' ∉ t) : t = [] := by
  by_contra hne
  have hlast := h _ (List.getLast?_eq_some_getLast hne)
  exact hnew (hlast ▸ List.getLast_mem hne)

/-- A text that ends a line is empty or has a last line. -/
theorem EndsLine.eq_nil_or_snoc {t : Text} (h : EndsLine t) :
    t = [] ∨ ∃ top line, t = top ++ (line ++ ['\n']) ∧ EndsLine top ∧ '\n' ∉ line := by
  rcases List.eq_nil_or_concat t with rfl | ⟨front, c, rfl⟩
  · exact Or.inl rfl
  · obtain rfl : c = '\n' := h c (by simp)
    right
    -- The last line is what follows the last line feed before the final one.
    clear h
    induction front using List.reverseRecOn with
    | nil => exact ⟨[], [], by simp, by simp, by simp⟩
    | append_singleton front c ih =>
      by_cases hc : c = '\n'
      · subst hc
        exact ⟨front ++ ['\n'], [], by simp, by simp, by simp⟩
      · obtain ⟨top, line, heq, htop, hline⟩ := ih
        refine ⟨top, line ++ [c], ?_, htop, by simp [hline, Ne.symm hc]⟩
        have hfront : front = top ++ line := by simpa [← List.append_assoc] using heq
        simp [hfront]

/-- A text is cut behind its last line feed into what ends a line and the start of a line. -/
theorem exists_endsLine_append (t : Text) :
    ∃ above indent, t = above ++ indent ∧ EndsLine above ∧ '\n' ∉ indent := by
  induction t using List.reverseRecOn with
  | nil => exact ⟨[], [], rfl, by simp, by simp⟩
  | append_singleton t c ih =>
    obtain ⟨above, indent, rfl, habove, hindent⟩ := ih
    by_cases hc : c = '\n'
    · subst hc
      exact ⟨above ++ indent ++ ['\n'], [], by simp, endsLine_append_newline _, by simp⟩
    · exact ⟨above, indent ++ [c], by simp, habove, by simp [hindent, Ne.symm hc]⟩

/-- There is only one such cut. -/
theorem endsLine_append_inj {a b i j : Text} (h : a ++ i = b ++ j) (ha : EndsLine a)
    (hb : EndsLine b) (hi : '\n' ∉ i) (hj : '\n' ∉ j) : a = b ∧ i = j := by
  rcases List.append_eq_append_iff.1 h with ⟨x, hba, hij⟩ | ⟨x, hab, hji⟩
  · have hx : x = [] := (hba ▸ hb).of_append.eq_nil fun hm => hi (by simp [hij, hm])
    subst hx
    exact ⟨by simpa using hba.symm, by simpa using hij⟩
  · have hx : x = [] := (hab ▸ ha).of_append.eq_nil fun hm => hj (by simp [hji, hm])
    subst hx
    exact ⟨by simpa using hab, by simpa using hji.symm⟩

/-- Blank lines are not the start of a line that says something. -/
theorem blank_append_ne {gap indent : Text} {e : Char} (hblank : isBlank gap = true)
    (hgap : '\n' ∈ gap) (hindent : '\n' ∉ indent) (he : isSpace e = false) (s t : Text) :
    gap ++ s ≠ indent ++ e :: t := by
  intro heq
  rcases List.append_eq_append_iff.1 heq with ⟨x, hx, -⟩ | ⟨x, hx, hy⟩
  · exact hindent (by simp [hx, hgap])
  · cases x with
    | nil => exact hindent (by simpa [hx] using hgap)
    | cons a x =>
      obtain rfl : e = a := by simpa using (List.cons.inj hy).1
      have := isSpace_of_mem hblank (c := e) (by simp [hx])
      simp [this] at he

/-- What is blank before the first character other than white space is determined. -/
theorem blank_append_inj {a b s t : Text} {d e : Char} (h : a ++ d :: s = b ++ e :: t)
    (ha : isBlank a = true) (hb : isBlank b = true) (hd : isSpace d = false)
    (he : isSpace e = false) : a = b ∧ d :: s = e :: t := by
  have htake : ∀ {x y : Text} {c : Char}, isBlank x = true → isSpace c = false →
      (x ++ c :: y).takeWhile isSpace = x := by
    intro x y c hx hc
    rw [List.takeWhile_append_of_pos fun c hc => isSpace_of_mem hx hc, List.takeWhile_cons, hc]
    simp
  have hab : a = b := by rw [← htake (y := s) ha hd, h, htake hb he]
  exact ⟨hab, List.append_cancel_left (hab ▸ h)⟩

/-- The lines that a text starts with are none, or they say something, if the text says something on
    its first line. -/
theorem eq_nil_or_not_blank {indent x j rest : Text} {e : Char} (h : indent ++ e :: rest = x ++ j)
    (hindent : '\n' ∉ indent) (he : isSpace e = false) (hx : EndsLine x) :
    (x = [] ∧ isBlank j = false) ∨ isBlank x = false := by
  rcases List.append_eq_append_iff.1 h with ⟨y, rfl, hy⟩ | ⟨y, rfl, rfl⟩
  · cases y with
    | nil =>
      rw [List.append_nil] at hx ⊢
      obtain rfl : e :: rest = j := by simpa using hy
      exact .inl ⟨hx.eq_nil hindent, by simp [isBlank_cons, he]⟩
    | cons a y =>
      obtain rfl : e = a := (List.cons.inj hy).1
      exact .inr (by simp [isBlank_cons, he])
  · have hnil : x = [] := hx.eq_nil fun hmem => hindent (List.mem_append_left _ hmem)
    exact .inl ⟨hnil, by simp [isBlank_cons, he]⟩

/-- What starts with something other than white space does not start in a blank part. -/
theorem lt_or_le_of_solid_start {before after top mid rest : Text} {e : Char}
    (h : before ++ e :: after = top ++ (mid ++ rest)) (hmid : isBlank mid = true)
    (he : isSpace e = false) :
    byteLength before < byteLength top ∨ byteLength (top ++ mid) ≤ byteLength before := by
  by_contra hnot
  simp only [not_or, Nat.not_lt, Nat.not_le] at hnot
  rw [← List.append_assoc] at h
  obtain ⟨x, hx, hy⟩ := exists_append_of_byteLength_le h (Nat.le_of_lt hnot.2)
  obtain ⟨z, rfl, rfl⟩ := exists_append_of_byteLength_le hx hnot.1
  cases x with
  | nil => simp at hnot
  | cons a x =>
    obtain rfl : e = a := (List.cons.inj hy).1
    have := isSpace_of_mem hmid (c := e) (by simp)
    simp [this] at he

/-- What ends with something other than white space does not end in a blank part. -/
theorem le_of_solid_end {before after top mid rest : Text} {e : Char}
    (h : before ++ after = top ++ (mid ++ rest)) (hmid : isBlank mid = true)
    (hlast : before.getLast? = some e) (he : isSpace e = false)
    (hle : byteLength before ≤ byteLength (top ++ mid)) : byteLength before ≤ byteLength top := by
  by_contra hnot
  obtain ⟨x, rfl, -⟩ := exists_append_of_byteLength_le h.symm (Nat.le_of_not_le hnot)
  rw [List.append_assoc] at h
  obtain ⟨z, rfl, -⟩ := exists_append_of_byteLength_le (List.append_cancel_left h) (by
    simpa using hle)
  have hmem : e ∈ x := by
    cases x with
    | nil => simp at hnot
    | cons a x =>
      have hlast' : (a :: x).getLast? = some e := by simpa using hlast
      exact List.mem_of_getLast? hlast'
  have := isSpace_of_mem hmid (c := e) (List.mem_append_left _ hmem)
  simp [this] at he

/-! ## Lines -/

/-- The lines of a text, each with its terminator. Only the last one may have none. -/
def lines : Text → List Text
  | [] => []
  | c :: rest =>
    if c = '\n' then
      [c] :: lines rest
    else
      match lines rest with
      | [] => [[c]]
      | line :: others => (c :: line) :: others

@[simp]
theorem lines_nil : lines [] = [] := rfl

theorem lines_ne_nil {t : Text} (h : t ≠ []) : lines t ≠ [] := by
  obtain ⟨c, rest, rfl⟩ := List.exists_cons_of_ne_nil h
  rw [lines]
  split
  · simp
  · split <;> simp

/-- A line with its line feed is the first of the lines. -/
theorem lines_line_append {line : Text} (h : '\n' ∉ line) (rest : Text) :
    lines (line ++ '\n' :: rest) = (line ++ ['\n']) :: lines rest := by
  induction line with
  | nil => simp [lines]
  | cons c line ih =>
    simp only [List.mem_cons, not_or] at h
    rw [List.cons_append, lines, if_neg (Ne.symm h.1), ih h.2]
    rfl

/-- The lines of two texts one after the other, where the first one ends a line. -/
theorem lines_append {s : Text} (h : EndsLine s) (t : Text) :
    lines (s ++ t) = lines s ++ lines t := by
  induction s with
  | nil => rfl
  | cons c s ih =>
    rw [List.cons_append, lines, lines, ih (EndsLine.of_append (s := [c]) h)]
    by_cases hc : c = '\n'
    · simp [hc]
    · have hs : s ≠ [] := by
        rintro rfl
        exact hc (h c (by simp))
      obtain ⟨line, others, heq⟩ := List.exists_cons_of_ne_nil (lines_ne_nil hs)
      simp [hc, heq]

theorem lines_snoc {top line : Text} (htop : EndsLine top) (hline : '\n' ∉ line) :
    lines (top ++ (line ++ ['\n'])) = lines top ++ [line ++ ['\n']] := by
  rw [lines_append htop, lines_line_append hline, lines_nil]

/-- A blank text has blank lines only. -/
theorem isBlank_of_mem_lines {t : Text} (h : isBlank t = true) {line : Text}
    (hline : line ∈ lines t) : isBlank line = true := by
  induction t generalizing line with
  | nil => simp at hline
  | cons c t ih =>
    rw [isBlank_cons, Bool.and_eq_true] at h
    rw [lines] at hline
    split at hline
    · rcases List.mem_cons.1 hline with rfl | hline
      · simp [isBlank_cons, h.1]
      · exact ih h.2 hline
    · split at hline
      · obtain rfl : line = [c] := by simpa using hline
        simp [isBlank_cons, h.1]
      · rename_i first others heq
        rcases List.mem_cons.1 hline with rfl | hline
        · simp [isBlank_cons, h.1, ih h.2 (heq ▸ List.mem_cons_self ..)]
        · exact ih h.2 (heq ▸ List.mem_cons_of_mem _ hline)

end ClassSpacing.Text
