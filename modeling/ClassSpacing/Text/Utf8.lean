import ClassSpacing.Text.Basic

/-!
# UTF-8

Files hold bytes, and a text is written as the UTF-8 form of its characters. Decoding reports where
the first malformed sequence starts and how many bytes of it are to blame: the longest start of a
well-formed sequence, at least one byte, or nothing when the input ends in the middle of one.
-/

namespace ClassSpacing

/-- The contents of a file. -/
abbrev Bytes := List UInt8

namespace Utf8

/-- The first place where bytes are not UTF-8. -/
structure Fault where
  /-- The number of well-formed bytes before the fault. -/
  validUpTo : Nat
  /-- The number of bytes to blame, or `none` if the input ends too early. -/
  length? : Option Nat
deriving Repr, DecidableEq

/-- The words for a fault. -/
def Fault.message : Fault → String
  | ⟨at_, some n⟩ => s!"invalid utf-8 sequence of {n} bytes from index {at_}"
  | ⟨at_, none⟩ => s!"incomplete utf-8 byte sequence from index {at_}"

/-- The UTF-8 form of a text. -/
def encode (t : Text) : Bytes :=
  t.flatMap String.utf8EncodeChar

/-- Whether a byte may stand second or later in a sequence. -/
def isContinuation (b : UInt8) : Bool :=
  0x80 ≤ b && b ≤ 0xBF

/-- Whether `second` may follow the leading byte `first` of a sequence of three or four bytes: this
    is where overlong forms, surrogates and numbers past the last code point are refused. -/
def isSecond (first second : UInt8) : Bool :=
  match first with
  | 0xE0 => 0xA0 ≤ second && second ≤ 0xBF
  | 0xED => 0x80 ≤ second && second ≤ 0x9F
  | 0xF0 => 0x90 ≤ second && second ≤ 0xBF
  | 0xF4 => 0x80 ≤ second && second ≤ 0x8F
  | _ => isContinuation second

/-- The six bits that a continuation byte carries. -/
def payload (b : UInt8) : Nat :=
  b.toNat % 64

/-- Decodes bytes that start at index `at_` of the input. -/
def decodeAt (at_ : Nat) : Bytes → Except Fault Text
  | [] => .ok []
  | b₀ :: r₁ =>
    if b₀ < 0x80 then
      (Char.ofNat b₀.toNat :: ·) <$> decodeAt (at_ + 1) r₁
    else if 0xC2 ≤ b₀ && b₀ ≤ 0xDF then
      match r₁ with
      | [] => .error ⟨at_, none⟩
      | b₁ :: r₂ =>
        if isContinuation b₁ then
          (Char.ofNat (b₀.toNat % 32 * 64 + payload b₁) :: ·) <$> decodeAt (at_ + 2) r₂
        else
          .error ⟨at_, some 1⟩
    else if 0xE0 ≤ b₀ && b₀ ≤ 0xEF then
      match r₁ with
      | [] => .error ⟨at_, none⟩
      | b₁ :: r₂ =>
        if !isSecond b₀ b₁ then
          .error ⟨at_, some 1⟩
        else
          match r₂ with
          | [] => .error ⟨at_, none⟩
          | b₂ :: r₃ =>
            if isContinuation b₂ then
              (Char.ofNat ((b₀.toNat % 16 * 64 + payload b₁) * 64 + payload b₂) :: ·) <$>
                decodeAt (at_ + 3) r₃
            else
              .error ⟨at_, some 2⟩
    else if 0xF0 ≤ b₀ && b₀ ≤ 0xF4 then
      match r₁ with
      | [] => .error ⟨at_, none⟩
      | b₁ :: r₂ =>
        if !isSecond b₀ b₁ then
          .error ⟨at_, some 1⟩
        else
          match r₂ with
          | [] => .error ⟨at_, none⟩
          | b₂ :: r₃ =>
            if !isContinuation b₂ then
              .error ⟨at_, some 2⟩
            else
              match r₃ with
              | [] => .error ⟨at_, none⟩
              | b₃ :: r₄ =>
                if isContinuation b₃ then
                  (Char.ofNat (((b₀.toNat % 8 * 64 + payload b₁) * 64 + payload b₂) * 64 +
                    payload b₃) :: ·) <$> decodeAt (at_ + 4) r₄
                else
                  .error ⟨at_, some 3⟩
    else
      .error ⟨at_, some 1⟩

/-- The text whose UTF-8 form the bytes are. -/
def decode (bytes : Bytes) : Except Fault Text :=
  decodeAt 0 bytes

end Utf8

end ClassSpacing
