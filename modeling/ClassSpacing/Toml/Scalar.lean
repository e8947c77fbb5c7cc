import ClassSpacing.Text.Decimal
import ClassSpacing.Text.Basic
import ClassSpacing.Value

/-!
# Numbers, dates and words of TOML

A value that is neither quoted nor bracketed is one unbroken run of characters. The run is taken as
a whole and must be a boolean, an integer, a float or a date and time from its first character to
its last.
-/

namespace ClassSpacing.Toml

open Decimal (isDigit digitValue)

/-! ## Digits -/

/-- The value of a digit of a base up to sixteen. -/
def digitIn? (base : Nat) (c : Char) : Option Nat :=
  let n :=
    if '0' ≤ c && c ≤ '9' then c.toNat - '0'.toNat
    else if 'a' ≤ c && c ≤ 'f' then c.toNat - 'a'.toNat + 10
    else if 'A' ≤ c && c ≤ 'F' then c.toNat - 'A'.toNat + 10
    else base
  if n < base then some n else none

/-- The value of digits, most significant first. A single underscore may stand between two of them.
    -/
def digitsFrom? (base n : Nat) : Text → Option Nat
  | [] => some n
  | '_' :: c :: rest => do digitsFrom? base (n * base + (← digitIn? base c)) rest
  | c :: rest => do digitsFrom? base (n * base + (← digitIn? base c)) rest

/-- The value of one or more digits. -/
def digits? (base : Nat) : Text → Option Nat
  | c :: rest => do digitsFrom? base (← digitIn? base c) rest
  | [] => none

/-- The sign of a run, and what follows it. -/
def splitSign : Text → Bool × Text
  | '-' :: rest => (true, rest)
  | '+' :: rest => (false, rest)
  | t => (false, t)

/-- Whether digits start with a zero that is not all there is. -/
def hasLeadingZero : Text → Bool
  | '0' :: _ :: _ => true
  | _ => false

/-! ## Integers -/

/-- An integer of 64 bits with a sign. -/
def word? (negative : Bool) (magnitude : Nat) : Option Value :=
  if magnitude < Decimal.signedBound then
    some (.integer (if negative then -(magnitude : Int) else magnitude))
  else if negative && magnitude == Decimal.signedBound then
    some (.integer (-(magnitude : Int)))
  else
    none

/-- The integer that a run is. Other bases than ten have a mark in front and no sign. -/
def integer? (run : Text) : Option Value := do
  match run with
  | '0' :: 'x' :: rest => word? false (← digits? 16 rest)
  | '0' :: 'o' :: rest => word? false (← digits? 8 rest)
  | '0' :: 'b' :: rest => word? false (← digits? 2 rest)
  | _ =>
    let (negative, rest) := splitSign run
    if hasLeadingZero rest then none else word? negative (← digits? 10 rest)

/-! ## Floats -/

/-- The exponent of a run, behind its mark. -/
def exponent? (t : Text) : Option Int := do
  let (negative, rest) := splitSign t
  let n ← digits? 10 rest
  return if negative then -(n : Int) else n

/-- The float that a run is. It must have a fraction or an exponent, and must not be too large. -/
def decimalFloat? (negative : Bool) (t : Text) : Option Value := do
  let isMark (c : Char) : Bool := c == 'e' || c == 'E'
  let mantissa := t.takeWhile (!isMark ·)
  let whole := mantissa.takeWhile (· != '.')
  let exponent ← match t.dropWhile (!isMark ·) with
    | [] => some 0
    | _ :: rest => exponent? rest
  if hasLeadingZero whole || !t.any (fun c => isMark c || c == '.') then
    none
  else
    let n ← digits? 10 whole
    let (significand, places) ← match mantissa.dropWhile (· != '.') with
      | [] => some (n, 0)
      | _ :: fraction => do
        discard (digits? 10 fraction)
        let kept := fraction.filter (· != '_')
        some (kept.foldl (fun n c => n * 10 + digitValue c) n, kept.length)
    let x := Binary64.ofDecimal negative significand (exponent - places)
    if x.isInfinite then none else some (.float x)

/-- The float that a run is. -/
def float? (run : Text) : Option Value :=
  let (negative, rest) := splitSign run
  match rest with
  | ['i', 'n', 'f'] => some (.float (.infinite negative))
  | ['n', 'a', 'n'] => some (.float .notANumber)
  | _ => decimalFloat? negative rest

/-! ## Dates and times -/

/-- The value of exactly two digits. -/
def pair? : Text → Option Nat
  | [a, b] => if isDigit a && isDigit b then some (digitValue a * 10 + digitValue b) else none
  | _ => none

/-- The number of days of a month. -/
def daysIn (year month : Nat) : Nat :=
  match month with
  | 2 => if (year % 4 == 0 && year % 100 != 0) || year % 400 == 0 then 29 else 28
  | 4 | 6 | 9 | 11 => 30
  | _ => 31

/-- Whether a run is a year, a month and a day. -/
def isDate : Text → Bool
  | [y₁, y₂, y₃, y₄, '-', m₁, m₂, '-', d₁, d₂] =>
    match pair? [y₁, y₂], pair? [y₃, y₄], pair? [m₁, m₂], pair? [d₁, d₂] with
    | some century, some year, some month, some day =>
      1 ≤ month && month ≤ 12 && 1 ≤ day && day ≤ daysIn (century * 100 + year) month
    | _, _, _, _ => false
  | _ => false

/-- Whether two digits are a number up to `most`. -/
def isPairUpTo (most : Nat) (a b : Char) : Bool :=
  (pair? [a, b]).any (· ≤ most)

/-- Whether what follows the minutes is nothing, or the seconds with or without a fraction. -/
def isSeconds : Text → Bool
  | [] => true
  | ':' :: a :: b :: rest =>
    isPairUpTo 60 a b &&
      match rest with
      | [] => true
      | '.' :: fraction => !fraction.isEmpty && fraction.all isDigit
      | _ => false
  | _ => false

/-- Whether a run is a time of day. -/
def isTime : Text → Bool
  | h₁ :: h₂ :: ':' :: m₁ :: m₂ :: rest =>
    isPairUpTo 23 h₁ h₂ && isPairUpTo 59 m₁ m₂ && isSeconds rest
  | _ => false

/-- Whether a run is a time of day with or without the distance of its zone. -/
def isZonedTime (run : Text) : Bool :=
  let time := run.takeWhile fun c => isDigit c || c == ':' || c == '.'
  isTime time &&
    match run.drop time.length with
    | [] | ['Z'] | ['z'] => true
    | [sign, h₁, h₂, ':', m₁, m₂] =>
      (sign == '+' || sign == '-') && isPairUpTo 23 h₁ h₂ && isPairUpTo 59 m₁ m₂
    | _ => false

/-- Whether a run is a date, a time, or both. -/
def isMoment (run : Text) : Bool :=
  isTime run || isDate run ||
    (isDate (run.take 10) &&
      match run.drop 10 with
      | sep :: rest => (sep == 'T' || sep == 't' || sep == ' ') && isZonedTime rest
      | [] => false)

/-- The key of a date or time. -/
def momentKey : String := "$__toml_private_datetime"

/-- A date or time has no counterpart among the values: it is a table with one entry, its text under
    a reserved key. -/
def moment (run : Text) : Value :=
  .table [(momentKey, .string (String.ofList run))]

/-! ## Runs -/

/-- Whether a character may stand in a run. -/
def isRunCharacter (c : Char) : Bool :=
  c.isAlphanum || c == '_' || c == '+' || c == '-' || c == '.' || c == ':'

/-- The value that a run is. -/
def scalar? (run : Text) : Option Value :=
  match run with
  | ['t', 'r', 'u', 'e'] => some (.boolean true)
  | ['f', 'a', 'l', 's', 'e'] => some (.boolean false)
  | _ => (integer? run).or <| (float? run).or <| if isMoment run then some (moment run) else none

/-- The run at the beginning of a text, and what follows. A date goes on behind one space if a time
    follows there. -/
def splitRun (t : Text) : Text × Text :=
  let run := t.takeWhile isRunCharacter
  let rest := t.drop run.length
  match isDate run, rest with
  | true, ' ' :: c :: more =>
    if isDigit c then
      let time := (c :: more).takeWhile isRunCharacter
      (run ++ ' ' :: time, (c :: more).drop time.length)
    else
      (run, rest)
  | _, _ => (run, rest)

end ClassSpacing.Toml
