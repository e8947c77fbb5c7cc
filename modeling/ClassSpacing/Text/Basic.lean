/-!
# Texts and byte offsets

A source text is a list of characters, and every offset into it is a number of bytes of its UTF-8
form. `Text.splitAt?` is the one place where the two meet: it cuts a text at a byte offset, and
refuses an offset that falls inside a character or past the end. Slices, line starts and edits are
all cuts of this kind.
-/

namespace ClassSpacing

/-- A text, as the list of its characters. -/
abbrev Text := List Char

namespace Text

/-- The number of bytes of the UTF-8 form of a text. -/
def byteLength : Text → Nat
  | [] => 0
  | c :: rest => c.utf8Size + byteLength rest

@[simp]
theorem byteLength_nil : byteLength [] = 0 := rfl

@[simp]
theorem byteLength_cons (c : Char) (t : Text) : byteLength (c :: t) = c.utf8Size + byteLength t :=
  rfl

@[simp]
theorem byteLength_append (s t : Text) : byteLength (s ++ t) = byteLength s + byteLength t := by
  induction s with
  | nil => simp
  | cons c s ih => simp [ih, Nat.add_assoc]

/-- The two parts of a text around a byte offset, or nothing when the offset is not the boundary of
    a character of the text. -/
def splitAt? : Text → Nat → Option (Text × Text)
  | t, 0 => some ([], t)
  | [], _ + 1 => none
  | c :: rest, n + 1 =>
    if c.utf8Size ≤ n + 1 then
      (splitAt? rest (n + 1 - c.utf8Size)).map fun (before, after) => (c :: before, after)
    else
      none

/-- A successful cut loses nothing, and the first part has the asked number of bytes. -/
theorem eq_append_of_splitAt? {t before after : Text} {n : Nat}
    (h : splitAt? t n = some (before, after)) : t = before ++ after ∧ byteLength before = n := by
  fun_induction splitAt? t n generalizing before after with
  | case1 t => simp_all
  | case2 => simp at h
  | case3 c rest n fits ih =>
    obtain ⟨⟨b, a⟩, hcut, heq⟩ := Option.map_eq_some_iff.1 h
    simp only [Prod.mk.injEq] at heq
    obtain ⟨rfl, rfl⟩ := heq
    obtain ⟨rfl, hb⟩ := ih hcut
    exact ⟨rfl, by simp only [byteLength_cons, hb]; omega⟩
  | case4 => simp at h

/-- Every way to write a text as two parts is found by a cut at the size of the first. -/
theorem splitAt?_append (before after : Text) :
    splitAt? (before ++ after) (byteLength before) = some (before, after) := by
  induction before with
  | nil => cases after <;> rfl
  | cons c before ih =>
    have hpos : 0 < c.utf8Size := c.utf8Size_pos
    obtain ⟨n, hn⟩ : ∃ n, byteLength (c :: before) = n + 1 :=
      ⟨c.utf8Size + byteLength before - 1, by simp only [byteLength_cons]; omega⟩
    have hrest : n + 1 - c.utf8Size = byteLength before := by
      rw [← hn, byteLength_cons, Nat.add_sub_cancel_left]
    have hfits : c.utf8Size ≤ n + 1 := by rw [← hn, byteLength_cons]; omega
    rw [hn, List.cons_append, splitAt?, if_pos hfits, hrest, ih]
    rfl

/-- The part of a text from a byte offset on, or nothing when the offset is not the boundary of a
    character of the text. -/
def after? : Text → Nat → Option Text
  | t, 0 => some t
  | [], _ + 1 => none
  | c :: rest, n + 1 => if c.utf8Size ≤ n + 1 then after? rest (n + 1 - c.utf8Size) else none

/-- What stands after an offset is the second part of the cut there. -/
theorem after?_eq_map_splitAt? (t : Text) (n : Nat) : after? t n = (splitAt? t n).map (·.2) := by
  fun_induction splitAt? t n with
  | case1 t => cases t <;> rfl
  | case2 => rfl
  | case3 c rest n fits ih => simp [after?, fits, ih, Function.comp_def]
  | case4 c rest n fits => simp [after?, fits]

/-- The text between two byte offsets, or nothing when they are out of order, out of range or inside
    a character. -/
def slice? (t : Text) (start stop : Nat) : Option Text := do
  if stop < start then
    none
  else
    let rest ← after? t start
    let (mid, _) ← splitAt? rest (stop - start)
    return mid

/-- Slices are exactly the middle parts of a text, placed by the bytes before them. -/
theorem slice?_eq_some_iff {t mid : Text} {start stop : Nat} :
    slice? t start stop = some mid ↔
      ∃ before after, t = before ++ mid ++ after ∧ byteLength before = start ∧
        stop = start + byteLength mid := by
  constructor
  · intro h
    unfold slice? at h
    split at h
    · simp at h
    · rename_i horder
      obtain ⟨rest, ha, hrest⟩ := Option.bind_eq_some_iff.1 h
      rw [after?_eq_map_splitAt?] at ha
      obtain ⟨⟨before, _⟩, hb, rfl⟩ := Option.map_eq_some_iff.1 ha
      obtain ⟨⟨m, after⟩, hm, hmid⟩ := Option.bind_eq_some_iff.1 hrest
      obtain ⟨rfl, hbl⟩ := eq_append_of_splitAt? hb
      obtain ⟨rfl, hml⟩ := eq_append_of_splitAt? hm
      obtain rfl : m = mid := Option.some.inj hmid
      exact ⟨before, after, by simp, hbl, by omega⟩
  · rintro ⟨before, after, rfl, rfl, rfl⟩
    have horder : ¬ byteLength before + byteLength mid < byteLength before := by omega
    simp [slice?, horder, List.append_assoc, after?_eq_map_splitAt?, splitAt?_append]

/-- Whether a byte offset is the boundary of a character of the text. -/
def isBoundary (t : Text) (offset : Nat) : Bool :=
  (after? t offset).isSome

/-- The text without one trailing carriage return, if it has one. -/
def dropTrailingReturn (t : Text) : Text :=
  match t.getLast? with
  | some '\r' => t.dropLast
  | _ => t

/-- `count` copies of a text, one after the other. A machine has no room for more bytes than it can
    address and stops when asked for them, while this list can have any size; `Strict.repeated` is
    the one that stops. -/
def repeated (count : Nat) (t : Text) : Text :=
  (List.replicate count t).flatten

end Text

end ClassSpacing
