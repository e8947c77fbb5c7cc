import ClassSpacing.Json.Fault
import ClassSpacing.Text.Decimal
import ClassSpacing.Value

/-!
# JSON numbers

A number without a fraction or an exponent is an integer as long as it fits in 64 bits, with or
without a sign. Every other number is brought to the format binary64 in two steps: as many leading
digits as fit in 64 bits are rounded, and the result is multiplied or divided by a power of ten and
rounded again. A number that comes out infinite is refused.
-/

namespace ClassSpacing.Json

open Decimal (isDigit digitValue)

/-- Whether a digit comes next. -/
def startsWithDigit : Text → Bool
  | c :: _ => isDigit c
  | [] => false

/-- Adds digits to `n` as long as the result is below `2 ^ 64`, and also counts them. -/
def absorbDigits (n count : Nat) : Text → Nat × Nat × Text
  | [] => (n, count, [])
  | c :: rest =>
    let next := n * 10 + digitValue c
    if isDigit c && next < Decimal.wordBound then absorbDigits next (count + 1) rest
    else (n, count, c :: rest)

/-- Drops digits, and counts them. -/
def dropDigits (t : Text) : Nat × Text :=
  ((t.takeWhile isDigit).length, t.dropWhile isDigit)

/-! ## Scaling -/

/-- The largest power of ten that a number is multiplied or divided by at once. -/
def maxPower : Nat := 308

/-- The magnitude of a power of ten. -/
def tens (exponent : Nat) : Binary64 :=
  .ofDecimal false 1 exponent

/-- Divides by `10 ^ exponent`, by `10 ^ 308` at a time. The dividend is below `2 ^ 64`, so it is
    zero after three such steps. -/
def divideByTens : Nat → Binary64 → Nat → Binary64
  | 0, x, _ => x
  | steps + 1, x, exponent =>
    if exponent ≤ maxPower then x.divMagnitude (tens exponent)
    else if x.isZero then x
    else divideByTens steps (x.divMagnitude (tens maxPower)) (exponent - maxPower)

/-- The magnitude of `significand * 10 ^ exponent`, unless it is too large. -/
def scale? (significand : Nat) (exponent : Int) : Option Binary64 :=
  let x := Binary64.ofNat significand
  if exponent < 0 then
    some (divideByTens 4 x (-exponent).toNat)
  else if exponent ≤ (maxPower : Int) then
    let product := x.mulMagnitude (tens exponent.toNat)
    if product.isInfinite then none else some product
  else if x.isZero then
    some x
  else
    none

/-! ## Reading -/

/-- The number `significand * 10 ^ exponent`, in front of what is left. -/
def finishFloat (negative : Bool) (significand : Nat) (exponent : Int) (rest : Text) :
    Except Fault (Value × Text) :=
  match scale? significand exponent with
  | some x => .ok (.float (if negative then x.negate else x), rest)
  | none => .error (.here .numberOutOfRange rest)

/-- The largest exponent that is computed with. -/
def maxExponent : Nat := 0x7FFFFFFF

/-- Adds digits to an exponent, up to the first with which it gets larger than `maxExponent`. -/
def exponentDigits (n : Nat) : Text → Except Text (Nat × Text)
  | [] => .ok (n, [])
  | c :: rest =>
    if isDigit c then
      let next := n * 10 + digitValue c
      if maxExponent < next then .error rest else exponentDigits next rest
    else
      .ok (n, c :: rest)

/-- Reads an exponent, behind its mark. -/
def exponentPart (negative : Bool) (significand : Nat) (start : Int) (t : Text) :
    Except Fault (Value × Text) :=
  let (down, digits) : Bool × Text := match t with
    | '+' :: rest => (false, rest)
    | '-' :: rest => (true, rest)
    | _ => (false, t)
  match digits with
  | [] => .error (.here .endInValue [])
  | c :: rest =>
    if isDigit c then
      match exponentDigits (digitValue c) rest with
      | .ok (n, rest) =>
        finishFloat negative significand (if down then start - n else start + n) rest
      | .error rest =>
        if significand ≠ 0 && !down then
          .error (.here .numberOutOfRange rest)
        else
          .ok (.float (.finite negative 0 Binary64.minExponent), (dropDigits rest).2)
    else
      .error (.ahead .invalidNumber digits)

/-- Reads what may follow the digits of a number with a fraction. -/
def afterFraction (negative : Bool) (significand : Nat) (exponent : Int) (t : Text) :
    Except Fault (Value × Text) :=
  match t with
  | 'e' :: rest | 'E' :: rest => exponentPart negative significand exponent rest
  | _ => finishFloat negative significand exponent t

/-- Reads a fraction, behind the point. Digits that no longer fit are dropped. -/
def fractionPart (negative : Bool) (significand : Nat) (exponent : Int) (t : Text) :
    Except Fault (Value × Text) :=
  if startsWithDigit t then
    let (significand, count, rest) := absorbDigits significand 0 t
    afterFraction negative significand (exponent - count) (dropDigits rest).2
  else if t.isEmpty then
    .error (.here .endInValue t)
  else
    .error (.ahead .invalidNumber t)

/-- The integer with the given magnitude; minus zero and what does not fit are no integers. -/
def integerValue (negative : Bool) (magnitude : Nat) : Value :=
  if !negative then .integer magnitude
  else if magnitude = 0 || Decimal.signedBound < magnitude then
    .float (Binary64.ofNat magnitude).negate
  else .integer (-(magnitude : Int))

/-- Reads what may follow the leading digits of a number. -/
def afterInteger (negative : Bool) (significand : Nat) (t : Text) : Except Fault (Value × Text) :=
  match t with
  | '.' :: rest => fractionPart negative significand 0 rest
  | 'e' :: rest | 'E' :: rest => exponentPart negative significand 0 rest
  | _ =>
    if startsWithDigit t then
      let (count, rest) := dropDigits t
      match rest with
      | '.' :: rest => fractionPart negative significand count rest
      | _ => afterFraction negative significand count rest
    else
      .ok (integerValue negative significand, t)

/-- Reads a number, behind its sign. -/
def number (negative : Bool) (t : Text) : Except Fault (Value × Text) :=
  match t with
  | [] => .error (.here .endInValue [])
  | '0' :: rest =>
    if startsWithDigit rest then .error (.ahead .invalidNumber rest)
    else afterInteger negative 0 rest
  | c :: _ =>
    if isDigit c then
      let (significand, _, rest) := absorbDigits 0 0 t
      afterInteger negative significand rest
    else
      .error (.ahead .invalidNumber t)

/-! ## Skipping -/

/-- Skips an exponent, behind its mark. -/
def skipExponent (t : Text) : Except Fault Text :=
  let digits : Text := match t with
    | '+' :: rest | '-' :: rest => rest
    | _ => t
  if startsWithDigit digits then .ok (dropDigits digits).2
  else .error (.ahead .invalidNumber digits)

/-- Skips what may follow the digits of a number. -/
def skipAfterFraction (t : Text) : Except Fault Text :=
  match t with
  | 'e' :: rest | 'E' :: rest => skipExponent rest
  | _ => .ok t

/-- Skips what may follow the leading digits of a number. -/
def skipAfterInteger (t : Text) : Except Fault Text :=
  match t with
  | '.' :: rest =>
    if startsWithDigit rest then skipAfterFraction (dropDigits rest).2
    else .error (.ahead .invalidNumber rest)
  | _ => skipAfterFraction t

/-- Skips a number of any size, behind its sign. -/
def skipNumber (t : Text) : Except Fault Text :=
  match t with
  | '0' :: rest =>
    if startsWithDigit rest then .error (.ahead .invalidNumber rest) else skipAfterInteger rest
  | _ =>
    if startsWithDigit t then skipAfterInteger (dropDigits t).2
    else .error (.ahead .invalidNumber t)

end ClassSpacing.Json
