import ClassSpacing.Proofs.Text.LineTable
import ClassSpacing.Rule

/-!
# Measuring blank lines

The walk up from a line counts the blank lines at the end of the text above it. What the rule finds
out about a line is therefore a function of one number, `Text.blankRun`, and of the requirement:
`Spacing.judge`.
-/

namespace ClassSpacing

namespace Text

/-! ## Blank lines at the end of a text -/

/-- The number of blank lines at the end of a text that ends a line. -/
def blankRun (above : Text) : Nat :=
  ((lines above).reverse.takeWhile isBlank).length

@[simp]
theorem blankRun_nil : blankRun [] = 0 := rfl

/-- One line more, counted from the end. -/
theorem blankRun_snoc {top line : Text} (htop : EndsLine top) (hline : '\n' ∉ line) :
    blankRun (top ++ (line ++ ['\n'])) = if isBlank line then blankRun top + 1 else 0 := by
  have hblank : isBlank (line ++ ['\n']) = isBlank line := by simp [isBlank_cons]
  rw [blankRun, lines_snoc htop hline, List.reverse_append, List.reverse_singleton,
    List.singleton_append, List.takeWhile_cons, hblank]
  split <;> simp [blankRun]

/-- Blank lines behind a text are counted on top of those at its end. -/
theorem blankRun_append_blank {top gap : Text} (htop : EndsLine top) (hgap : EndsLine gap)
    (hblank : isBlank gap = true) : blankRun (top ++ gap) = blankRun top + gap.count '\n' := by
  induction hn : gap.count '\n' generalizing gap with
  | zero =>
    have : gap = [] := hgap.eq_nil (List.count_eq_zero.1 hn)
    subst this
    simp
  | succ n ih =>
    rcases hgap.eq_nil_or_snoc with rfl | ⟨front, line, rfl, hfront, hline⟩
    · simp at hn
    · rw [isBlank_append, isBlank_append, Bool.and_eq_true, Bool.and_eq_true] at hblank
      have hzero : line.count '\n' = 0 := List.count_eq_zero.2 hline
      have hcount : front.count '\n' = n := by
        simpa [hzero] using hn
      rw [← List.append_assoc, blankRun_snoc (htop.append hfront) hline, if_pos hblank.2.1,
        ih hfront hblank.1 hcount, Nat.add_assoc]

/-- Lines that are not all blank end the count. -/
theorem blankRun_append_of_not_blank {top below : Text} (htop : EndsLine top)
    (hbelow : EndsLine below) (hblank : isBlank below = false) :
    blankRun (top ++ below) = blankRun below := by
  induction hn : below.count '\n' generalizing below with
  | zero =>
    have : below = [] := hbelow.eq_nil (List.count_eq_zero.1 hn)
    subst this
    simp at hblank
  | succ n ih =>
    rcases hbelow.eq_nil_or_snoc with rfl | ⟨front, line, rfl, hfront, hline⟩
    · simp at hblank
    · have hzero : line.count '\n' = 0 := List.count_eq_zero.2 hline
      have hcount : front.count '\n' = n := by
        simpa [hzero] using hn
      rw [← List.append_assoc, blankRun_snoc (htop.append hfront) hline,
        blankRun_snoc hfront hline]
      by_cases hl : isBlank line = true
      · have hf : isBlank front = false := by simpa [hl, isBlank_cons] using hblank
        rw [if_pos hl, if_pos hl, ih hfront hf hcount]
      · rw [if_neg hl, if_neg hl]

/-- As many blank lines as are counted, or fewer, can be cut off. -/
theorem exists_blank_gap {above : Text} {count : Nat} (habove : EndsLine above)
    (h : count ≤ blankRun above) :
    ∃ top gap, above = top ++ gap ∧ EndsLine top ∧ EndsLine gap ∧ isBlank gap = true ∧
      gap.count '\n' = count := by
  induction count generalizing above with
  | zero => exact ⟨above, [], by simp, habove, by simp, rfl, rfl⟩
  | succ count ih =>
    rcases habove.eq_nil_or_snoc with rfl | ⟨front, line, rfl, hfront, hline⟩
    · simp at h
    · rw [blankRun_snoc hfront hline] at h
      split at h
      · rename_i hblank
        have hzero : line.count '\n' = 0 := List.count_eq_zero.2 hline
        obtain ⟨top, gap, rfl, htop, hgap, hgapBlank, hcount⟩ := ih hfront (by omega)
        refine ⟨top, gap ++ (line ++ ['\n']), by simp, htop, ?_, ?_, ?_⟩
        · rw [← List.append_assoc]
          exact endsLine_append_newline _
        · simp [hgapBlank, hblank, isBlank_cons]
        · simp [hcount, hzero]
      · omega

/-- The line above a non-empty count is blank. -/
theorem exists_blank_line_of_blankRun_pos {above : Text} (habove : EndsLine above)
    (h : 0 < blankRun above) :
    ∃ top line, above = top ++ (line ++ ['\n']) ∧ EndsLine top ∧ '\n' ∉ line ∧
      isBlank line = true := by
  rcases habove.eq_nil_or_snoc with rfl | ⟨top, line, rfl, htop, hline⟩
  · simp at h
  · refine ⟨top, line, rfl, htop, hline, ?_⟩
    rw [blankRun_snoc htop hline] at h
    by_contra hblank
    rw [if_neg hblank] at h
    omega

end Text

open Text

/-! ## The outcome for a number of blank lines -/

namespace Spacing

/-- What is found out about a line with so many blank lines above it. -/
def judge : Spacing → Nat → Outcome
  | atLeastOne, present => if 0 < present then .satisfied else .shortfall 1
  | exactly required, present => compare required present
  | invalid _, _ => .invalidOption

/-- Whether so many blank lines are what is required. -/
def Admits : Spacing → Nat → Prop
  | atLeastOne, present => 0 < present
  | exactly required, present => present = required
  | invalid _, _ => False

theorem judge_eq_satisfied_iff {spacing : Spacing} {present : Nat} :
    spacing.judge present = .satisfied ↔ spacing.Admits present := by
  cases spacing with
  | atLeastOne => by_cases h : 0 < present <;> simp [judge, Admits, h]
  | exactly required =>
    simp only [judge, compare, Admits]
    split_ifs <;> simp <;> omega
  | invalid value => simp [judge, Admits]

/-- A requirement of at least one blank line. -/
def Separates : Spacing → Prop
  | atLeastOne => True
  | exactly required => 0 < required
  | invalid _ => False

theorem Separates.pos_of_admits {spacing : Spacing} {present : Nat} (h : spacing.Separates)
    (hadmits : spacing.Admits present) : 0 < present := by
  cases spacing with
  | atLeastOne => exact hadmits
  | exactly required => exact hadmits ▸ h
  | invalid value => exact h.elim

/-- There is nothing to compare with exactly if the option is not a number of lines. -/
theorem judge_eq_invalidOption_iff {spacing : Spacing} {present : Nat} :
    spacing.judge present = .invalidOption ↔ ∃ value, spacing = .invalid value := by
  cases spacing with
  | atLeastOne => simp only [judge]; split <;> simp
  | exactly required => simp only [judge, compare]; split_ifs <;> simp
  | invalid value => simp [judge]

theorem Separates.judge_ne {spacing : Spacing} (h : spacing.Separates) (present : Nat) :
    spacing.judge present ≠ .invalidOption := by
  intro hinvalid
  obtain ⟨value, rfl⟩ := judge_eq_invalidOption_iff.1 hinvalid
  exact h

/-- With the lines that are missing, there are as many as are required. -/
theorem judge_add_of_shortfall {spacing : Spacing} {present missing : Nat}
    (h : spacing.judge present = .shortfall missing) :
    0 < missing ∧ spacing.judge (present + missing) = .satisfied := by
  cases spacing with
  | atLeastOne =>
    simp only [judge] at h ⊢
    split at h
    · simp at h
    · obtain rfl : 1 = missing := by simpa using h
      simp
  | exactly required =>
    simp only [judge, compare] at h ⊢
    split at h
    · obtain rfl : required - present = missing := by simpa using h
      refine ⟨by omega, ?_⟩
      rw [if_neg (by omega), if_neg (by omega)]
    · split at h <;> simp at h
  | invalid value => simp [judge] at h

/-- Without the superfluous lines, which are there, there are as many as are required. -/
theorem judge_sub_of_excess {spacing : Spacing} {present extra : Nat}
    (h : spacing.judge present = .excess extra) :
    0 < extra ∧ extra ≤ present ∧ spacing.judge (present - extra) = .satisfied := by
  cases spacing with
  | atLeastOne =>
    simp only [judge] at h
    split at h <;> simp at h
  | exactly required =>
    simp only [judge, compare] at h ⊢
    split at h
    · simp at h
    · split at h
      · obtain rfl : present - required = extra := by simpa using h
        refine ⟨by omega, by omega, ?_⟩
        rw [if_neg (by omega), if_neg (by omega)]
      · simp at h
  | invalid value => simp [judge] at h

end Spacing

/-! ## The walk over the lines -/

namespace Rule

/-- Whether the next line up is blank, where the lines up to there are already passed. -/
theorem blankAbove_of_cut {top line : Text} (htop : EndsLine top) (hline : '\n' ∉ line)
    (rest : Text) (distance : Nat) :
    blankAbove (top ++ (line ++ '\n' :: rest)) (.ofText (top ++ (line ++ '\n' :: rest)))
      (top.count '\n' + distance) distance = isBlank line := by
  have hle : distance ≤ top.count '\n' + distance := by omega
  rw [blankAbove, if_pos hle, Nat.add_sub_cancel, LineTable.lineText?_of_cut htop hline]
  exact isBlank_dropTrailingReturn line

/-- The walk from a line up counts the blank lines above it. `top` is what is not passed yet. -/
theorem countBlank_blankAbove {source top rest : Text} (htop : EndsLine top)
    (hsource : source = top ++ rest) {line limit distance : Nat}
    (hline : line + 1 = top.count '\n' + distance) (hlimit : top.count '\n' < limit) :
    Id.run (Spacing.countBlank (fun d => pure (blankAbove source (.ofText source) line d))
      limit distance) = blankRun top := by
  induction limit generalizing top rest distance with
  | zero => omega
  | succ limit ih =>
    rcases htop.eq_nil_or_snoc with rfl | ⟨front, last, rfl, hfront, hlast⟩
    · -- There is no line above the first one.
      have hgt : ¬ distance ≤ line := by
        simp only [List.count_nil] at hline
        omega
      have hblank : blankAbove source (.ofText source) line distance = false := if_neg hgt
      simp only [Spacing.countBlank, hblank, Id.run, pure_bind]
      rfl
    · have hzero : last.count '\n' = 0 := List.count_eq_zero.2 hlast
      have hcount : (front ++ (last ++ ['\n'])).count '\n' = front.count '\n' + 1 := by
        simp [hzero]
      have hsource' : source = front ++ (last ++ '\n' :: rest) := by simp [hsource]
      have hblank : blankAbove source (.ofText source) line distance = isBlank last := by
        obtain rfl : line = front.count '\n' + distance := by omega
        rw [hsource']
        exact blankAbove_of_cut hfront hlast rest distance
      have hnext : line + 1 = front.count '\n' + (distance + 1) := by omega
      have hrec := ih hfront hsource' hnext (by omega)
      simp only [Id.run] at hrec
      rw [blankRun_snoc hfront hlast]
      simp only [Spacing.countBlank, hblank, Id.run, pure_bind]
      by_cases hl : isBlank last = true
      · simp only [hl, if_true]
        exact congrArg (· + 1) hrec
      · simp only [hl]
        rfl

/-- What the rule finds out about the line behind a part of the text that ends a line. -/
theorem outcomeAt_eq_judge (rule : Rule) {above : Text} (habove : EndsLine above) (rest : Text) :
    rule.outcomeAt (above ++ rest) (.ofText (above ++ rest)) (above.count '\n') =
      rule.spacing.judge (blankRun above) := by
  unfold outcomeAt Spacing.measure
  cases rule.spacing with
  | invalid value => rfl
  | exactly required =>
    have hstart : above.count '\n' + 1 = above.count '\n' + 1 := rfl
    have hcount := countBlank_blankAbove habove (rfl : above ++ rest = _) hstart
      (Nat.lt_succ_self (above.count '\n'))
    exact congrArg (Spacing.compare required) hcount
  | atLeastOne =>
    rcases habove.eq_nil_or_snoc with rfl | ⟨top, line, rfl, htop, hline⟩
    · rfl
    · have hzero : line.count '\n' = 0 := List.count_eq_zero.2 hline
      have hcut := blankAbove_of_cut htop hline rest 1
      have hassoc : top ++ (line ++ ['\n']) ++ rest = top ++ (line ++ '\n' :: rest) := by simp
      have hcount : (top ++ (line ++ ['\n'])).count '\n' = top.count '\n' + 1 := by simp [hzero]
      rw [hassoc, hcount, blankRun_snoc htop hline]
      simp only [pure_bind, hcut]
      by_cases hl : isBlank line = true <;> simp [hl, Spacing.judge]

end Rule

end ClassSpacing
