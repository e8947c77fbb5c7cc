import ClassSpacing.Text.Decimal
import Mathlib.Tactic.IntervalCases

/-!
# Numerals

The canonical decimal form of a number: digits without leading zeros, behind a minus sign if the
number is negative. Both readers of configurations take digits from left to right and multiply by
ten before each one, so the value is a fold over the digits.
-/

namespace ClassSpacing.Decimal

/-- What reading one more digit makes of a number. -/
def push (n : Nat) (c : Char) : Nat :=
  n * 10 + digitValue c

theorem isDigit_eq (c : Char) : isDigit c = c.isDigit := by
  rw [isDigit, Char.isDigit, Bool.eq_iff_iff, Bool.and_eq_true, Bool.and_eq_true]
  simp only [decide_eq_true_eq]
  rfl

theorem isDigit_of_mem_toDigits {n : Nat} {c : Char} (h : c ∈ Nat.toDigits 10 n) :
    isDigit c = true := by
  rw [isDigit_eq]
  exact Nat.isDigit_of_mem_toDigits (by decide) (by decide) h

theorem foldl_push_eq (digits : List Char) (n : Nat) :
    digits.foldl push n = Nat.ofDigitChars 10 digits n := by
  induction digits generalizing n with
  | nil => rfl
  | cons c rest ih =>
    rw [List.foldl_cons, ih, Nat.ofDigitChars, Nat.ofDigitChars, List.foldl_cons, push,
      Nat.mul_comm]
    rfl

/-- The digits of a number have its value. -/
theorem foldl_push_toDigits (n : Nat) : (Nat.toDigits 10 n).foldl push 0 = n := by
  rw [foldl_push_eq, Nat.ofDigitChars_toDigits (by decide) (by decide)]

/-- Reading more digits never makes a number smaller. -/
theorem le_foldl_push (digits : List Char) (n : Nat) : n ≤ digits.foldl push n := by
  induction digits generalizing n with
  | nil => exact Nat.le_refl n
  | cons c rest ih =>
    have hpush : n ≤ push n c := by
      unfold push
      omega
    exact hpush.trans (ih (push n c))

/-- Only zero starts with a zero, and that is all of it. -/
theorem toDigits_cases (n : Nat) :
    (n = 0 ∧ Nat.toDigits 10 n = ['0']) ∨
      ∃ c rest, Nat.toDigits 10 n = c :: rest ∧ c ≠ '0' := by
  induction n using Nat.strongRecOn with
  | ind n ih =>
    by_cases hn : n < 10
    · rw [Nat.toDigits_of_lt_base hn]
      interval_cases n
      · exact .inl ⟨rfl, rfl⟩
      all_goals exact .inr ⟨_, _, rfl, by decide⟩
    · rw [Nat.toDigits_of_base_le (by decide) (by omega)]
      obtain ⟨hzero, -⟩ | ⟨c, rest, hdigits, hc⟩ := ih (n / 10) (by omega)
      · omega
      · exact .inr ⟨c, _, by rw [hdigits, List.cons_append], hc⟩

/-- A number is written with a minus sign if it is negative. -/
theorem toList_toString (n : Int) :
    (toString n).toList =
      if n < 0 then '-' :: Nat.toDigits 10 n.natAbs else Nat.toDigits 10 n.natAbs := by
  cases n with
  | ofNat m => simp [toString, Int.repr]
  | negSucc m => simp [toString, Int.repr, Int.negSucc_lt_zero]

end ClassSpacing.Decimal
