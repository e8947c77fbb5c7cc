import ClassSpacing.Number.Binary64

/-!
# The shortest digits of a number

A number of the format binary64 stands for all the reals that round to it, and is written with the
fewest digits that name one of them. Among the names of that length the one nearest to the number is
taken. A `Scientific` is such a name: a natural number times a power of ten.
-/

namespace ClassSpacing

/-- The number `significand * 10 ^ exponent`. -/
structure Scientific where
  significand : Nat
  exponent : Int
deriving Repr, DecidableEq, Inhabited

namespace Scientific

/-- The digits of the significand. -/
def digits (d : Scientific) : List Char :=
  Nat.toDigits 10 d.significand

/-- The same number without trailing zeros, of which at most `limit` are taken away. -/
def trimmed : Nat → Scientific → Scientific
  | 0, d => d
  | limit + 1, d =>
    if d.significand ≠ 0 && d.significand % 10 == 0 then
      trimmed limit ⟨d.significand / 10, d.exponent + 1⟩
    else
      d

end Scientific

namespace Binary64

/-- The most digits that a name needs. -/
def maxDigits : Nat := 17

/-- The reals that round to a positive number, in quarters of its last place. -/
structure RoundingInterval where
  low : Nat
  mid : Nat
  high : Nat
  /-- Whether the ends belong to it. -/
  closed : Bool
  /-- The power of two that a quarter of the last place is. -/
  unit : Int

/-- The reals that round to `mantissa * 2 ^ exponent`. Below a power of two the numbers lie twice as
    close. -/
def roundingInterval (mantissa : Nat) (exponent : Int) : RoundingInterval :=
  let isPower := 2 * mantissa == mantissaBound && minExponent < exponent
  { low := if isPower then 4 * mantissa - 1 else 4 * mantissa - 2
    mid := 4 * mantissa
    high := 4 * mantissa + 2
    closed := mantissa % 2 == 0
    unit := exponent - 2 }

namespace RoundingInterval

/-- Compares `count * 10 ^ place` with `quarters` quarters. -/
def compareWith (i : RoundingInterval) (count : Nat) (place : Int) (quarters : Nat) : Ordering :=
  let (tens, untens) := power 10 place
  let (twos, untwos) := power 2 i.unit
  compare (count * tens * untwos) (quarters * twos * untens)

/-- Whether `count * 10 ^ place` rounds to the number. -/
def holds (i : RoundingInterval) (count : Nat) (place : Int) : Bool :=
  match i.compareWith count place i.low, i.compareWith count place i.high with
  | .gt, .lt => true
  | .eq, _ => i.closed
  | _, .eq => i.closed
  | _, _ => false

/-- The number in whole units of `10 ^ place`, rounded down. -/
def floorAt (i : RoundingInterval) (place : Int) : Nat :=
  let (tens, untens) := power 10 place
  let (twos, untwos) := power 2 i.unit
  i.mid * twos * untens / (untwos * tens)

/-- Of two neighbours on the grid of `10 ^ place`, whether the upper one is nearer. A tie goes to
    the even one. -/
def upperIsNearer (i : RoundingInterval) (floor : Nat) (place : Int) : Bool :=
  match i.compareWith (2 * floor + 1) place (2 * i.mid) with
  | .lt => true
  | .gt => false
  | .eq => floor % 2 == 1

/-- The name on the grid of `10 ^ place` that rounds to the number, the nearer of two. -/
def nameAt? (i : RoundingInterval) (place : Int) : Option Scientific :=
  let floor := i.floorAt place
  match i.holds floor place, i.holds (floor + 1) place with
  | true, true => some ⟨if i.upperIsNearer floor place then floor + 1 else floor, place⟩
  | true, false => some ⟨floor, place⟩
  | false, true => some ⟨floor + 1, place⟩
  | false, false => none

/-- The place of the first digit: the number lies below `10 ^ place`, and not below a tenth of it.
    -/
def leadingPlace (i : RoundingInterval) : Int :=
  let whole := i.floorAt 0
  if 0 < whole then
    ((Nat.toDigits 10 whole).length : Int)
  else
    let (twos, untwos) := power 2 i.unit
    let zeros : Int := ((Nat.toDigits 10 (untwos / (i.mid * twos))).length : Int)
    if 0 < i.floorAt (-zeros) then 1 - zeros else -zeros

/-- The first name that is found with `count`, `count + 1`, … digits. -/
def shortestFrom (i : RoundingInterval) (place : Int) : Nat → Nat → Scientific
  | 0, count => ⟨i.floorAt (place - count), place - count⟩
  | budget + 1, count =>
    match i.nameAt? (place - count) with
    | some name => name
    | none => shortestFrom i place budget (count + 1)

end RoundingInterval

/-- The shortest name of `mantissa * 2 ^ exponent`. -/
def shortest (mantissa : Nat) (exponent : Int) : Scientific :=
  if mantissa = 0 then
    ⟨0, 0⟩
  else
    let interval := roundingInterval mantissa exponent
    let name := interval.shortestFrom interval.leadingPlace maxDigits 1
    name.trimmed maxDigits

/-! ## Spellings -/

/-- How numbers are spelled. -/
structure Spelling where
  /-- The largest number of digits before the point of a number without an exponent. -/
  maxPlaces? : Option Nat
  /-- The largest number of zeros after the point of a number without an exponent. -/
  maxZeros? : Option Nat
  /-- Whether a whole number shows that it may have a fraction. -/
  showsFraction : Bool

/-- Digits, a point among them, and never an exponent. -/
def plain : Spelling := { maxPlaces? := none, maxZeros? := none, showsFraction := false }

/-- Digits with a point, or an exponent for what is long. -/
def compact : Spelling := { maxPlaces? := some 16, maxZeros? := some 4, showsFraction := true }

namespace Spelling

/-- The spelling of a magnitude. -/
def write (s : Spelling) (d : Scientific) : List Char :=
  let digits := d.digits
  let count : Int := (digits.length : Int)
  let places := if d.significand = 0 then 1 else count + d.exponent
  if 0 < places && s.maxPlaces?.all (fun most => places ≤ (most : Int)) then
    if count ≤ places then
      digits ++ List.replicate (places - count).toNat '0' ++
        if s.showsFraction then ['.', '0'] else []
    else
      digits.take places.toNat ++ '.' :: digits.drop places.toNat
  else if places ≤ 0 && s.maxZeros?.all (fun most => -places ≤ (most : Int)) then
    '0' :: '.' :: List.replicate (-places).toNat '0' ++ digits
  else
    let fraction := digits.drop 1
    digits.take 1 ++ (if fraction.isEmpty then [] else '.' :: fraction) ++
      'e' :: (if 0 < places then ['+'] else []) ++ (toString (places - 1)).toList

end Spelling

/-- The text of a number. -/
def spell (s : Spelling) : Binary64 → String
  | finite negative mantissa exponent =>
    let digits := s.write (shortest mantissa exponent)
    String.ofList (if negative then '-' :: digits else digits)
  | infinite negative => if negative then "-inf" else "inf"
  | notANumber => "NaN"

end Binary64

end ClassSpacing
