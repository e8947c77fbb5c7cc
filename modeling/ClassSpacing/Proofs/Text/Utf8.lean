import ClassSpacing.Proofs.Text.Lines
import ClassSpacing.Text.Utf8

/-!
# UTF-8 round trip

`Utf8.Spells` lists the well-formed sequences of bytes with the number of the character that each
one spells. Encoding writes such a sequence for each character, decoding reads exactly those, and a
number is spelled in one way only: decoding succeeds exactly on what encoding writes.
-/

namespace ClassSpacing.Utf8

/-! ## Bytes by their numbers -/

theorem isContinuation_iff {b : UInt8} :
    isContinuation b = true ↔ 0x80 ≤ b.toNat ∧ b.toNat ≤ 0xBF := by
  simp [isContinuation, UInt8.le_iff_toNat_le]

/-- A second byte is a continuation byte within the bounds that the first byte sets. -/
theorem isSecond_iff {first second : UInt8} :
    isSecond first second = true ↔ (0x80 ≤ second.toNat ∧ second.toNat ≤ 0xBF) ∧
      (first.toNat = 0xE0 → 0xA0 ≤ second.toNat) ∧ (first.toNat = 0xED → second.toNat ≤ 0x9F) ∧
      (first.toNat = 0xF0 → 0x90 ≤ second.toNat) ∧ (first.toNat = 0xF4 → second.toNat ≤ 0x8F) := by
  have hnat : ∀ n : Nat, n < 256 → (first.toNat = n ↔ first = UInt8.ofNat n) := by
    intro n hn
    rw [← UInt8.toNat_inj, UInt8.toNat_ofNat', Nat.mod_eq_of_lt hn]
  unfold isSecond
  split
  · simp [UInt8.le_iff_toNat_le]
    omega
  · simp [UInt8.le_iff_toNat_le]
    omega
  · simp [UInt8.le_iff_toNat_le]
    omega
  · simp [UInt8.le_iff_toNat_le]
    omega
  · rename_i h0 h1 h2 h3
    rw [isContinuation_iff, hnat 0xE0 (by decide), hnat 0xED (by decide), hnat 0xF0 (by decide),
      hnat 0xF4 (by decide)]
    exact ⟨fun h => ⟨h, fun e => (h0 e).elim, fun e => (h1 e).elim, fun e => (h2 e).elim,
      fun e => (h3 e).elim⟩, And.left⟩

/-! ## Well-formed sequences -/

/-- A well-formed sequence of bytes and the number of the character that it spells. -/
inductive Spells : Bytes → Nat → Prop
  | one {b₀ : UInt8} {n : Nat} (h₀ : b₀.toNat < 0x80) (hn : n = b₀.toNat) : Spells [b₀] n
  | two {b₀ b₁ : UInt8} {n : Nat} (h₀ : 0xC2 ≤ b₀.toNat ∧ b₀.toNat ≤ 0xDF)
      (h₁ : isContinuation b₁ = true) (hn : n = b₀.toNat % 32 * 64 + payload b₁) :
      Spells [b₀, b₁] n
  | three {b₀ b₁ b₂ : UInt8} {n : Nat} (h₀ : 0xE0 ≤ b₀.toNat ∧ b₀.toNat ≤ 0xEF)
      (h₁ : isSecond b₀ b₁ = true) (h₂ : isContinuation b₂ = true)
      (hn : n = (b₀.toNat % 16 * 64 + payload b₁) * 64 + payload b₂) : Spells [b₀, b₁, b₂] n
  | four {b₀ b₁ b₂ b₃ : UInt8} {n : Nat} (h₀ : 0xF0 ≤ b₀.toNat ∧ b₀.toNat ≤ 0xF4)
      (h₁ : isSecond b₀ b₁ = true) (h₂ : isContinuation b₂ = true) (h₃ : isContinuation b₃ = true)
      (hn : n = ((b₀.toNat % 8 * 64 + payload b₁) * 64 + payload b₂) * 64 + payload b₃) :
      Spells [b₀, b₁, b₂, b₃] n

theorem encode_cons (c : Char) (t : Text) : encode (c :: t) = String.utf8EncodeChar c ++ encode t :=
  rfl

/-- Encoding a character spells its number. -/
theorem spells_utf8EncodeChar (c : Char) : Spells (String.utf8EncodeChar c) c.toNat := by
  have hvalid : c.toNat < 0xD800 ∨ 0xDFFF < c.toNat ∧ c.toNat < 0x110000 := c.valid
  have hval : c.val.toNat = c.toNat := rfl
  unfold String.utf8EncodeChar
  simp only [hval]
  generalize c.toNat = v at hvalid
  split_ifs with h1 h2 h3
  · exact .one (by simp; omega) (by simp; omega)
  · refine .two (by simp; omega) (isContinuation_iff.2 (by simp; omega)) ?_
    simp [payload]
    omega
  · refine .three (by simp; omega) (isSecond_iff.2 (by simp; omega))
      (isContinuation_iff.2 (by simp; omega)) ?_
    simp [payload]
    omega
  · refine .four (by simp; omega) (isSecond_iff.2 (by simp; omega))
      (isContinuation_iff.2 (by simp; omega)) (isContinuation_iff.2 (by simp; omega)) ?_
    simp [payload]
    omega

theorem toNat_ofNat_of_isValidChar {n : Nat} (h : n.isValidChar) : (Char.ofNat n).toNat = n := by
  rw [Char.ofNat, dif_pos h]
  rfl

/-- A well-formed sequence spells the number of a character. -/
theorem Spells.isValidChar {bytes : Bytes} {n : Nat} (h : Spells bytes n) : n.isValidChar := by
  cases h with
  | one h₀ hn => exact .inl (by omega)
  | two h₀ h₁ hn =>
    rw [isContinuation_iff] at h₁
    simp only [payload] at hn
    exact .inl (by omega)
  | three h₀ h₁ h₂ hn =>
    rw [isSecond_iff] at h₁
    simp only [payload] at hn
    simp only [Nat.isValidChar]
    omega
  | four h₀ h₁ h₂ h₃ hn =>
    rw [isSecond_iff] at h₁
    simp only [payload] at hn
    simp only [Nat.isValidChar]
    omega

/-- A number has one spelling only. -/
theorem Spells.eq_utf8EncodeChar {bytes : Bytes} {n : Nat} (h : Spells bytes n) :
    bytes = String.utf8EncodeChar (Char.ofNat n) := by
  have hval : (Char.ofNat n).val.toNat = n := toNat_ofNat_of_isValidChar h.isValidChar
  unfold String.utf8EncodeChar
  simp only [hval]
  cases h with
  | @one b₀ _ h₀ hn =>
    rw [if_pos (by omega)]
    simp [hn]
  | @two b₀ b₁ _ h₀ h₁ hn =>
    rw [isContinuation_iff] at h₁
    simp only [payload] at hn
    rw [if_neg (by omega), if_pos (by omega)]
    simp [← UInt8.toNat_inj]
    omega
  | @three b₀ b₁ b₂ _ h₀ h₁ h₂ hn =>
    rw [isSecond_iff] at h₁
    rw [isContinuation_iff] at h₂
    simp only [payload] at hn
    rw [if_neg (by omega), if_neg (by omega), if_pos (by omega)]
    simp [← UInt8.toNat_inj]
    omega
  | @four b₀ b₁ b₂ b₃ _ h₀ h₁ h₂ h₃ hn =>
    rw [isSecond_iff] at h₁
    rw [isContinuation_iff] at h₂ h₃
    simp only [payload] at hn
    rw [if_neg (by omega), if_neg (by omega), if_neg (by omega)]
    simp [← UInt8.toNat_inj]
    omega

/-! ## Decoding -/

/-- Decoding reads a well-formed sequence as one character. -/
theorem Spells.decodeAt_append {bytes : Bytes} {n : Nat} (h : Spells bytes n) (at_ : Nat)
    (rest : Bytes) :
    decodeAt at_ (bytes ++ rest) = (Char.ofNat n :: ·) <$> decodeAt (at_ + bytes.length) rest := by
  rw [decodeAt.eq_def]
  cases h with
  | one h₀ hn => simp [UInt8.lt_iff_toNat_lt, h₀, hn]
  | two h₀ h₁ hn =>
    have hge : ¬ _ < 0x80 := Nat.not_lt.2 (Nat.le_trans (by decide) h₀.1)
    simp [UInt8.lt_iff_toNat_lt, UInt8.le_iff_toNat_le, hge, h₀, h₁, hn]
  | three h₀ h₁ h₂ hn =>
    have hge : ¬ _ < 0x80 := Nat.not_lt.2 (Nat.le_trans (by decide) h₀.1)
    have hgt : ¬ _ ≤ 0xDF := Nat.not_le.2 (Nat.lt_of_lt_of_le (by decide) h₀.1)
    simp [UInt8.lt_iff_toNat_lt, UInt8.le_iff_toNat_le, hge, hgt, h₀, h₁, h₂, hn]
  | four h₀ h₁ h₂ h₃ hn =>
    have hge : ¬ _ < 0x80 := Nat.not_lt.2 (Nat.le_trans (by decide) h₀.1)
    have hgt : ¬ _ ≤ 0xDF := Nat.not_le.2 (Nat.lt_of_lt_of_le (by decide) h₀.1)
    have hgt' : ¬ _ ≤ 0xEF := Nat.not_le.2 (Nat.lt_of_lt_of_le (by decide) h₀.1)
    simp [UInt8.lt_iff_toNat_lt, UInt8.le_iff_toNat_le, hge, hgt, hgt', h₀, h₁, h₂, h₃, hn]

theorem Spells.append_eq_encode {bytes rest : Bytes} {n : Nat} (h : Spells bytes n) {t : Text}
    {tail : Except Fault Text} (htail : ∀ {u}, tail = .ok u → rest = encode u)
    (hmap : (Char.ofNat n :: ·) <$> tail = .ok t) : bytes ++ rest = encode t := by
  cases tail with
  | error fault => simp at hmap
  | ok u =>
    obtain rfl := Except.ok.inj hmap
    have hcons := encode_cons (Char.ofNat n) u
    rw [htail rfl, hcons, ← h.eq_utf8EncodeChar]

/-- What is decoded is well-formed sequences, one after the other. -/
theorem eq_encode_of_decodeAt {at_ : Nat} {bytes : Bytes} {t : Text}
    (h : decodeAt at_ bytes = .ok t) : bytes = encode t := by
  fun_induction decodeAt at_ bytes generalizing t with
  | case1 =>
    obtain rfl := Except.ok.inj h
    rfl
  | case2 at_ b₀ r₁ h₀ ih =>
    rw [UInt8.lt_iff_toNat_lt] at h₀
    exact (Spells.one h₀ rfl).append_eq_encode ih h
  | case4 at_ b₀ _ h₀ b₁ r₂ h₁ ih =>
    simp only [Bool.and_eq_true, decide_eq_true_eq, UInt8.le_iff_toNat_le] at h₀
    exact (Spells.two h₀ h₁ rfl).append_eq_encode ih h
  | case9 at_ b₀ _ _ h₀ b₁ h₁ b₂ r₃ h₂ ih =>
    simp only [Bool.and_eq_true, decide_eq_true_eq, UInt8.le_iff_toNat_le] at h₀
    exact (Spells.three h₀ (by simpa using h₁) h₂ rfl).append_eq_encode ih h
  | case16 at_ b₀ _ _ _ h₀ b₁ h₁ b₂ h₂ b₃ r₄ h₃ ih =>
    simp only [Bool.and_eq_true, decide_eq_true_eq, UInt8.le_iff_toNat_le] at h₀
    exact (Spells.four h₀ (by simpa using h₁) (by simpa using h₂) h₃ rfl).append_eq_encode ih h
  | _ => simp at h

theorem decodeAt_encode (at_ : Nat) (t : Text) : decodeAt at_ (encode t) = .ok t := by
  induction t generalizing at_ with
  | nil => rfl
  | cons c t ih =>
    rw [encode_cons, (spells_utf8EncodeChar c).decodeAt_append, ih, Char.ofNat_toNat]
    rfl

/-- Decoding succeeds exactly on what encoding writes. -/
theorem decode_eq_ok_iff {bytes : Bytes} {t : Text} : decode bytes = .ok t ↔ bytes = encode t := by
  constructor
  · exact eq_encode_of_decodeAt
  · rintro rfl
    exact decodeAt_encode 0 t

theorem encode_inj {s t : Text} : encode s = encode t ↔ s = t := by
  constructor
  · intro h
    have hs := decode_eq_ok_iff.2 h
    rw [decode_eq_ok_iff.2 rfl] at hs
    exact Except.ok.inj hs
  · rintro rfl
    rfl

end ClassSpacing.Utf8
