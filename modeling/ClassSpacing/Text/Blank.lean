import ClassSpacing.Text.Basic

/-!
# White space and blank lines

The class of white space characters is that of the Unicode property `White_Space`: the ASCII
controls from tab to carriage return, the space, and nineteen characters beyond ASCII.
-/

namespace ClassSpacing.Text

/-- Whether a character has the Unicode property `White_Space`. -/
def isSpace (c : Char) : Bool :=
  let n := c.toNat
  (0x09 ≤ n && n ≤ 0x0D) || n == 0x20 || n == 0x85 || n == 0xA0 || n == 0x1680 ||
    (0x2000 ≤ n && n ≤ 0x200A) || n == 0x2028 || n == 0x2029 || n == 0x202F || n == 0x205F ||
    n == 0x3000

/-- The white space that Lean's core knows is white space here. -/
theorem isSpace_of_isWhitespace {c : Char} (h : c.isWhitespace = true) : isSpace c = true := by
  simp only [Char.isWhitespace, Bool.or_eq_true, decide_eq_true_eq] at h
  rcases h with ((rfl | rfl) | rfl) | rfl <;> decide

/-- A text is blank if it is empty or white space only. -/
def isBlank (t : Text) : Bool :=
  t.all isSpace

end ClassSpacing.Text
