import ClassSpacing.Spacing
import Mathlib.Data.Nat.Find

/-!
# Which lines are asked about

`Spacing.measure` asks about the lines above a member, from the nearest one up, and a question may
have an effect, such as an entry in a log. Where an exact number of lines is required, the questions
are those about the blank lines and one more, whatever the number is: neither the number nor the
limit of the walk decides where it ends, but the first line that is not blank.
-/

namespace ClassSpacing.Spacing

/-! ## Runs of blank lines -/

/-- From a distance on, so many lines are blank, and the next one is not. -/
def IsRun (blank : Nat → Bool) (distance count : Nat) : Prop :=
  (∀ d < count, blank (distance + d) = true) ∧ blank (distance + count) = false

variable {blank : Nat → Bool} {distance count : Nat}

theorem exists_isRun (h : ∃ d, distance ≤ d ∧ blank d = false) :
    ∃ count, IsRun blank distance count := by
  have hsolid : ∃ count, blank (distance + count) = false := by
    obtain ⟨d, hle, hd⟩ := h
    exact ⟨d - distance, by rwa [Nat.add_sub_cancel' hle]⟩
  refine ⟨Nat.find hsolid, fun d hd => ?_, Nat.find_spec hsolid⟩
  have hblank := Nat.find_min hsolid hd
  rwa [Bool.not_eq_false] at hblank

theorem IsRun.unique {other : Nat} (h : IsRun blank distance count)
    (hother : IsRun blank distance other) : count = other := by
  rcases Nat.lt_trichotomy count other with hlt | heq | hgt
  · have hblank := hother.1 count hlt
    rw [h.2] at hblank
    cases hblank
  · exact heq
  · have hblank := h.1 other hgt
    rw [hother.2] at hblank
    cases hblank

/-- A run without its first line. -/
theorem IsRun.tail (h : IsRun blank distance (count + 1)) :
    blank distance = true ∧ IsRun blank (distance + 1) count := by
  refine ⟨h.1 0 (Nat.succ_pos count), fun d hd => ?_, ?_⟩
  · have hblank := h.1 (d + 1) (Nat.succ_lt_succ hd)
    rwa [← Nat.add_assoc, Nat.add_right_comm] at hblank
  · have hsolid := h.2
    rwa [← Nat.add_assoc, Nat.add_right_comm] at hsolid

/-! ## Questions with effects -/

section

variable {m : Type → Type} [Monad m]

/-- The question whether a line is blank, with a note that it was asked. -/
def noted (note : Nat → m Unit) (blank : Nat → Bool) (distance : Nat) : m Bool := do
  note distance
  return blank distance

variable [LawfulMonad m] {limit : Nat}

/-- Counting asks about each line of a run and about the one behind it. -/
theorem countBlank_noted (note : Nat → m Unit) (h : IsRun blank distance count)
    (hlimit : count < limit) :
    countBlank (noted note blank) limit distance = do
      (List.range' distance (count + 1)).forM note
      return count := by
  induction limit generalizing distance count with
  | zero => omega
  | succ limit ih =>
    cases count with
    | zero =>
      have hsolid : blank distance = false := h.2
      simp [countBlank, noted, hsolid]
    | succ count =>
      obtain ⟨hblank, hrest⟩ := h.tail
      have hcount := ih hrest (Nat.lt_of_succ_lt_succ hlimit)
      have hrange : List.range' distance (count + 1 + 1) =
          distance :: List.range' (distance + 1) (count + 1) := List.range'_succ
      simp [countBlank, noted, hblank, hcount, hrange]

/-! ## The walk in two parts -/

/-- First the lines up to the required number are asked about, and only if all of them are blank the
    lines above these. -/
def measureInParts (blankAbove : Nat → m Bool) (required limit : Nat) : m Outcome := do
  let present ← countBlank blankAbove required 1
  if present < required then
    return .shortfall (required - present)
  else
    let extra ← countBlank blankAbove limit (required + 1)
    return if extra = 0 then .satisfied else .excess extra

/-- A walk can be interrupted anywhere and taken up again at the next line. -/
theorem countBlank_add (blankAbove : Nat → m Bool) (first more distance : Nat) :
    countBlank blankAbove (first + more) distance = (do
      let present ← countBlank blankAbove first distance
      if present < first then
        return present
      else
        return first + (← countBlank blankAbove more (distance + first))) := by
  induction first generalizing distance with
  | zero => simp [countBlank]
  | succ first ih =>
    rw [Nat.succ_add, countBlank, countBlank, bind_assoc]
    refine bind_congr fun blank => ?_
    cases blank with
    | false => simp
    | true =>
      have hnext : distance + 1 + first = distance + (first + 1) := by omega
      simp only [if_true, ih, hnext, bind_assoc, pure_bind]
      refine bind_congr fun present => ?_
      by_cases hlt : present < first
      · simp [hlt]
      · simp [hlt, Nat.add_right_comm]

theorem measure_eq_measureInParts (blankAbove : Nat → m Bool) (required limit : Nat) :
    (exactly required).measure (required + limit) blankAbove =
      measureInParts blankAbove required limit := by
  unfold measure measureInParts
  simp only [countBlank_add, bind_assoc, Nat.add_comm 1 required]
  refine bind_congr fun present => ?_
  by_cases hlt : present < required
  · simp [hlt, compare]
  · simp only [if_neg hlt, bind_assoc, pure_bind]
    refine bind_congr fun extra => ?_
    by_cases hextra : extra = 0
    · simp [hextra, compare]
    · have hge : ¬ required + extra < required := by omega
      have hgt : required < required + extra := by omega
      simp [hextra, compare, hge, hgt]

end

/-- Where some line is not blank, the walk ends. It asks about the blank lines up to the first such
    line and about that line, from the nearest one up and once each, and tells how far their number
    is from the required one. No limit beyond that line cuts it short, and it is the same walk in
    two parts. -/
theorem measure_exactly_asks {m : Type → Type} [Monad m] [LawfulMonad m] (note : Nat → m Unit)
    (blank : Nat → Bool) (required : Nat) (hend : ∃ d, 1 ≤ d ∧ blank d = false) :
    ∃ present outcome, IsRun blank 1 present ∧
      (∀ limit, present < limit →
        (exactly required).measure limit (noted note blank) = do
          (List.range' 1 (present + 1)).forM note
          return outcome) ∧
      (∀ limit, measureInParts (noted note blank) required limit =
        (exactly required).measure (required + limit) (noted note blank)) ∧
      (present = required → outcome = .satisfied) ∧
      (present < required → outcome = .shortfall (required - present)) ∧
      (required < present → outcome = .excess (present - required)) := by
  obtain ⟨present, hrun⟩ := exists_isRun hend
  refine ⟨present, compare required present, hrun, fun limit hlimit => ?_,
    fun limit => (measure_eq_measureInParts _ required limit).symm, fun heq => ?_, fun hlt => ?_,
    fun hgt => ?_⟩
  · simp [measure, countBlank_noted note hrun hlimit]
  · rw [compare, if_neg (by omega), if_neg (by omega)]
  · rw [compare, if_pos hlt]
  · rw [compare, if_neg (by omega), if_pos hgt]

/-- Two superfluous lines below a line that is not blank, with a log of the questions. -/
theorem measure_exactly_asks_log :
    let blank (d : Nat) : Bool := d ≤ 3 || d == 5
    let log (d : Nat) : StateM (List Nat) Unit := modify (· ++ [d])
    (∃ d, 1 ≤ d ∧ blank d = false) ∧
      ((exactly 1).measure 6 (noted log blank)).run [] = (.excess 2, [1, 2, 3, 4]) := by
  intro blank log
  have hend : ∃ d, 1 ≤ d ∧ blank d = false := ⟨4, by decide, by decide⟩
  obtain ⟨present, outcome, hrun, hwalk, -, -, -, hexcess⟩ := measure_exactly_asks log blank 1 hend
  obtain rfl : present = 3 := hrun.unique ⟨by decide, by decide⟩
  refine ⟨hend, ?_⟩
  rw [hwalk 6 (by decide), hexcess (by decide)]
  rfl

end ClassSpacing.Spacing
