/-!
# Decimal numerals

Numbers of lines are written as plain decimal digits and must fit in 64 bits.
-/

namespace ClassSpacing.Decimal

/-- One more than the largest number that fits in 64 bits. -/
def wordBound : Nat := 0x10000000000000000

/-- One more than the largest number that fits in 64 bits with a sign. -/
def signedBound : Nat := 0x8000000000000000

/-- Whether a character is one of the ten ASCII digits. -/
def isDigit (c : Char) : Bool :=
  '0' ≤ c && c ≤ '9'

/-- The value of a digit. -/
def digitValue (c : Char) : Nat :=
  c.toNat - '0'.toNat

/-- The number that a list of digits denotes, most significant first. -/
def value (digits : List Char) : Nat :=
  digits.foldl (fun n c => n * 10 + digitValue c) 0

/-- The number below `2 ^ 64` that a non-empty string of digits denotes, leading zeros allowed. -/
def parseWord? (s : String) : Option Nat :=
  let digits := s.toList
  if digits.isEmpty || !digits.all isDigit then
    none
  else
    let n := value digits
    if n < wordBound then some n else none

/-! ## Numbers with a reason for failure -/

/-- Why a text is not the decimal form of a word of 64 bits. -/
inductive WordFault where
  | empty
  | notDigit
  | tooLarge
deriving Repr, DecidableEq

/-- The words for a fault. -/
def WordFault.message : WordFault → String
  | empty => "cannot parse integer from empty string"
  | notDigit => "invalid digit found in string"
  | tooLarge => "number too large to fit in target type"

/-- Reads the digits that are left, where those before have the given value. The first fault is the
    one that is found. -/
def readDigits (value : Nat) : List Char → Except WordFault Nat
  | [] => .ok value
  | c :: rest =>
    if !isDigit c then .error .notDigit
    else
      let value := 10 * value + digitValue c
      if value < wordBound then readDigits value rest else .error .tooLarge

/-- Reads a word of 64 bits, which may have a plus sign. -/
def readWord (s : String) : Except WordFault Nat :=
  match s.toList with
  | [] => .error .empty
  | ['+'] => .error .notDigit
  | '+' :: digits => readDigits 0 digits
  | digits => readDigits 0 digits

end ClassSpacing.Decimal
