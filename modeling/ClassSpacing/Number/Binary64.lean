/-!
# Numbers of the format binary64

Settings may hold numbers with a fraction or an exponent. They are kept as the IEEE 754 format
binary64 keeps them: a mantissa below `2 ^ 53` times a power of two from `2 ^ -1074` up, or an
infinity, or no number at all. Every operation first computes the exact quotient of two natural
numbers and then rounds it once, to the nearest such number, a half to the even mantissa.
-/

namespace ClassSpacing

/-- A number of the format binary64. -/
inductive Binary64 where
  /-- `mantissa * 2 ^ exponent`, with its sign. -/
  | finite (negative : Bool) (mantissa : Nat) (exponent : Int)
  | infinite (negative : Bool)
  | notANumber
deriving Repr, DecidableEq, Inhabited

namespace Binary64

/-- The number of bits of a mantissa. -/
def mantissaBits : Nat := 53

/-- One more than the largest mantissa. -/
def mantissaBound : Nat := Nat.pow 2 mantissaBits

/-- The least exponent. -/
def minExponent : Int := -1074

/-- The greatest exponent. -/
def maxExponent : Int := 971

/-- The power `base ^ exponent` as a quotient. -/
def power (base : Nat) (exponent : Int) : Nat × Nat :=
  if 0 ≤ exponent then (base.pow exponent.toNat, 1) else (1, base.pow (-exponent).toNat)

/-- The natural number nearest to a quotient, a half to the even one. -/
def roundQuotient (num den : Nat) : Nat :=
  let floor := num / den
  let rest := num % den
  if 2 * rest < den then floor
  else if den < 2 * rest then floor + 1
  else floor + floor % 2

/-- A rounded quotient lies at most half a unit from the exact one. -/
theorem roundQuotient_within (num den : Nat) (h : 0 < den) :
    2 * num ≤ (2 * roundQuotient num den + 1) * den ∧
      2 * roundQuotient num den * den ≤ 2 * num + den := by
  have hsplit : den * (num / den) + num % den = num := Nat.div_add_mod num den
  have hlt : num % den < den := Nat.mod_lt num h
  have key (q : Nat) : 2 * q * den = 2 * (den * q) := by rw [Nat.mul_assoc, Nat.mul_comm q den]
  simp only [roundQuotient]
  generalize num / den = q at *
  generalize num % den = r at *
  have hq := key q
  split
  · rw [Nat.add_mul, hq]; omega
  · split
    · rw [Nat.add_mul, key (q + 1), Nat.mul_add]; omega
    · have heven : q % 2 = 0 ∨ q % 2 = 1 := by omega
      rcases heven with hpar | hpar
      · simp only [hpar, Nat.add_zero]
        rw [Nat.add_mul, hq]; omega
      · rw [hpar, Nat.add_mul, key (q + 1), Nat.mul_add]; omega

/-- The exponent at which a positive quotient has a mantissa of full size, or the least one. -/
def exponentFor (num den : Nat) : Int :=
  let low : Int := (num.log2 : Int) - (den.log2 : Int) - mantissaBits
  let (scale, unscale) := power 2 (-low)
  let fitted := if num * scale / (den * unscale) < mantissaBound then low else low + 1
  max fitted minExponent

/-- The number nearest to the quotient of two natural numbers, with the given sign. -/
def ofQuotient (negative : Bool) (num den : Nat) : Binary64 :=
  if num = 0 then
    finite negative 0 minExponent
  else
    let exponent := exponentFor num den
    let (scale, unscale) := power 2 (-exponent)
    let mantissa := roundQuotient (num * scale) (den * unscale)
    let (mantissa, exponent) :=
      if mantissa = mantissaBound then (mantissaBound / 2, exponent + 1)
      else (mantissa, exponent)
    if maxExponent < exponent then infinite negative else finite negative mantissa exponent

/-- The number nearest to a natural number. -/
def ofNat (n : Nat) : Binary64 :=
  ofQuotient false n 1

/-- Powers of ten from here on are past the greatest number. -/
def decimalCeiling : Int := 310

/-- Powers of ten up to here are nearer to zero than to the least number above it. -/
def decimalFloor : Int := -330

/-- The number nearest to `significand * 10 ^ exponent`. Exponents that are far out of range are
    settled before the power is computed. -/
def ofDecimal (negative : Bool) (significand : Nat) (exponent : Int) : Binary64 :=
  let magnitude : Int := ((Nat.toDigits 10 significand).length : Int) + exponent
  if significand = 0 || magnitude < decimalFloor then
    finite negative 0 minExponent
  else if decimalCeiling < magnitude then
    infinite negative
  else
    let (scale, unscale) := power 10 exponent
    ofQuotient negative (significand * scale) unscale

/-- The magnitude of a finite number as a quotient. -/
def quotient? : Binary64 → Option (Nat × Nat)
  | finite _ mantissa exponent =>
    let (scale, unscale) := power 2 exponent
    some (mantissa * scale, unscale)
  | _ => none

/-- Whether a number is zero. -/
def isZero : Binary64 → Bool
  | finite _ mantissa _ => mantissa == 0
  | _ => false

/-- Whether a number is infinite. -/
def isInfinite : Binary64 → Bool
  | infinite _ => true
  | _ => false

/-- The number with the other sign. -/
def negate : Binary64 → Binary64
  | finite negative mantissa exponent => finite (!negative) mantissa exponent
  | infinite negative => infinite (!negative)
  | notANumber => notANumber

/-- The rounded product of two magnitudes. -/
def mulMagnitude (a b : Binary64) : Binary64 :=
  match a.quotient?, b.quotient? with
  | some (p, q), some (r, s) => ofQuotient false (p * r) (q * s)
  | _, _ => infinite false

/-- The rounded quotient of two magnitudes, of which the second is not zero. -/
def divMagnitude (a b : Binary64) : Binary64 :=
  match a.quotient?, b.quotient? with
  | some (p, q), some (r, s) => ofQuotient false (p * s) (q * r)
  | _, _ => infinite false

end Binary64

end ClassSpacing
