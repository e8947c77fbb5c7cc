import ClassSpacing.Proofs.Text.Lines
import ClassSpacing.Text.OpeningBrace
import Mathlib.Computability.Language
import Mathlib.Data.List.TakeWhile

/-!
# The language of opening lines

`openingLines` says which lines only open a block, as a regular language over classes of characters:
a brace between white space, or the end of a type parameter list in front of that. White space can
stand in every part of such a line, so that a line can be cut in several ways; the matcher takes the
longest possible part each time, and still accepts exactly the lines of the language.
-/

namespace ClassSpacing.Text

open Computability

/-! ## Languages -/

/-- The texts of one character of a class. -/
def oneOf (p : Char → Bool) : Language Char :=
  {t | ∃ c, p c = true ∧ t = [c]}

/-- White space, one opening brace, white space. -/
def bareBraces : Language Char :=
  (oneOf isSpace)∗ * {['{']} * (oneOf isSpace)∗

/-- A bare brace; or word characters, white space, commas and opening angles, one closing angle, and
    a bare brace. -/
def openingLines : Language Char :=
  bareBraces +
    (oneOf fun c => isWord c || isSpace c || c == ',' || c == '<')∗ * {['>']} * bareBraces

variable {p : Char → Bool} {t : Text}

theorem mem_kstar_oneOf : t ∈ (oneOf p)∗ ↔ ∀ c ∈ t, p c = true := by
  rw [Language.mem_kstar]
  constructor
  · rintro ⟨parts, rfl, hparts⟩ c hc
    obtain ⟨part, hpart, hmem⟩ := List.mem_flatten.1 hc
    obtain ⟨d, hd, rfl⟩ := hparts part hpart
    obtain rfl : c = d := by simpa using hmem
    exact hd
  · intro h
    refine ⟨t.map ([·]), by simp [← List.flatMap_def], ?_⟩
    intro part hpart
    obtain ⟨c, hc, rfl⟩ := List.mem_map.1 hpart
    exact ⟨c, h c hc, rfl⟩

/-- A text with characters of a class, one character, and then something. -/
theorem mem_kstar_mul_iff {c : Char} {l : Language Char} :
    t ∈ (oneOf p)∗ * {[c]} * l ↔
      ∃ front rest, t = front ++ c :: rest ∧ (∀ d ∈ front, p d = true) ∧ rest ∈ l := by
  constructor
  · intro h
    obtain ⟨start, hstart, rest, hrest, rfl⟩ := Language.mem_mul.1 h
    obtain ⟨front, hfront, mark, hmark, rfl⟩ := Language.mem_mul.1 hstart
    obtain rfl : mark = [c] := hmark
    exact ⟨front, rest, by simp, mem_kstar_oneOf.1 hfront, hrest⟩
  · rintro ⟨front, rest, rfl, hfront, hrest⟩
    have hstart : front ++ [c] ∈ (oneOf p)∗ * {[c]} :=
      Language.mem_mul.2 ⟨front, mem_kstar_oneOf.2 hfront, [c], rfl, rfl⟩
    exact Language.mem_mul.2 ⟨front ++ [c], hstart, rest, hrest, by simp⟩

/-! ## The matcher -/

/-- What is left behind the longest part in a class starts with a character that is not in it. -/
theorem dropWhile_eq_cons_iff {c : Char} {rest : Text} (hc : p c = false) :
    t.dropWhile p = c :: rest ↔ ∃ front, t = front ++ c :: rest ∧ ∀ d ∈ front, p d = true := by
  constructor
  · intro h
    refine ⟨t.takeWhile p, ?_, fun d hd => List.mem_takeWhile_imp hd⟩
    rw [← h, List.takeWhile_append_dropWhile]
  · rintro ⟨front, rfl, hfront⟩
    rw [List.dropWhile_append_of_pos hfront, List.dropWhile_cons, hc]
    rfl

theorem isBareBrace_iff : isBareBrace t = true ↔ t ∈ bareBraces := by
  have hbrace : isSpace '{' = false := by decide
  have hmatch : isBareBrace t = true ↔
      ∃ rest, t.dropWhile isSpace = '{' :: rest ∧ isBlank rest = true := by
    unfold isBareBrace
    split <;> simp_all
  rw [hmatch, bareBraces, mem_kstar_mul_iff]
  constructor
  · rintro ⟨rest, hdrop, hrest⟩
    obtain ⟨front, rfl, hfront⟩ := (dropWhile_eq_cons_iff hbrace).1 hdrop
    exact ⟨front, rest, rfl, hfront, mem_kstar_oneOf.2 (List.all_eq_true.1 hrest)⟩
  · rintro ⟨front, rest, rfl, hfront, hrest⟩
    exact ⟨rest, (dropWhile_eq_cons_iff hbrace).2 ⟨front, rfl, hfront⟩,
      List.all_eq_true.2 (mem_kstar_oneOf.1 hrest)⟩

theorem isOpeningBraceLine_iff : isOpeningBraceLine t = true ↔ t ∈ openingLines := by
  have hangle : isParameterListChar '>' = false := by decide
  have hmatch : isOpeningBraceLine t = true ↔ isBareBrace t = true ∨
      ∃ rest, t.dropWhile isParameterListChar = '>' :: rest ∧ isBareBrace rest = true := by
    unfold isOpeningBraceLine
    rw [Bool.or_eq_true]
    refine or_congr_right ?_
    split <;> simp_all
  rw [hmatch, openingLines, Language.mem_add, isBareBrace_iff]
  refine or_congr_right ?_
  rw [mem_kstar_mul_iff]
  constructor
  · rintro ⟨rest, hdrop, hrest⟩
    obtain ⟨front, rfl, hfront⟩ := (dropWhile_eq_cons_iff hangle).1 hdrop
    exact ⟨front, rest, rfl, hfront, isBareBrace_iff.1 hrest⟩
  · rintro ⟨front, rest, rfl, hfront, hrest⟩
    exact ⟨rest, (dropWhile_eq_cons_iff hangle).2 ⟨front, rfl, hfront⟩, isBareBrace_iff.2 hrest⟩

/-! ## Marks -/

/-- A character outside of a class does not occur in a text of the class. -/
theorem count_eq_zero_of_class {c : Char} (h : ∀ d ∈ t, p d = true) (hc : p c = false) :
    t.count c = 0 := by
  refine List.count_eq_zero.2 fun hmem => ?_
  rw [h c hmem] at hc
  cases hc

theorem count_of_mem_bareBraces (h : t ∈ bareBraces) : t.count '{' = 1 ∧ t.count '>' = 0 := by
  obtain ⟨front, rest, rfl, hfront, hrest⟩ := mem_kstar_mul_iff.1 h
  rw [mem_kstar_oneOf] at hrest
  have hbrace : isSpace '{' = false := by decide
  have hangle : isSpace '>' = false := by decide
  simp [count_eq_zero_of_class hfront hbrace, count_eq_zero_of_class hrest hbrace,
    count_eq_zero_of_class hfront hangle, count_eq_zero_of_class hrest hangle]

theorem count_of_mem_openingLines (h : t ∈ openingLines) :
    t.count '{' = 1 ∧ t.count '>' ≤ 1 := by
  rcases (Language.mem_add _ _ _).1 h with hbare | hlist
  · obtain ⟨hbrace, hangle⟩ := count_of_mem_bareBraces hbare
    exact ⟨hbrace, by omega⟩
  · obtain ⟨front, rest, rfl, hfront, hrest⟩ := mem_kstar_mul_iff.1 hlist
    obtain ⟨hbrace, hangle⟩ := count_of_mem_bareBraces hrest
    simp [count_eq_zero_of_class hfront (c := '{') (by decide),
      count_eq_zero_of_class hfront (c := '>') (by decide), hbrace, hangle]

/-- The matcher accepts exactly the lines of the language. A line that it accepts has one opening
    brace and at most one closing angle, and is not blank. -/
theorem isOpeningBraceLine_recognizes (line : Text) :
    (isOpeningBraceLine line = true ↔ line ∈ openingLines) ∧
      (isOpeningBraceLine line = true →
        line.count '{' = 1 ∧ line.count '>' ≤ 1 ∧ isBlank line = false) := by
  refine ⟨isOpeningBraceLine_iff, fun h => ?_⟩
  obtain ⟨hbrace, hangle⟩ := count_of_mem_openingLines (isOpeningBraceLine_iff.1 h)
  refine ⟨hbrace, hangle, ?_⟩
  by_contra hblank
  rw [Bool.not_eq_false] at hblank
  have hspace := isSpace_of_mem hblank (List.count_pos_iff.1 (by omega : 0 < line.count '{'))
  exact absurd hspace (by decide)

/-- The end of a type parameter list over two lines. -/
theorem isOpeningBraceLine_recognizes_list :
    isOpeningBraceLine "  Map<É, T_1\n> \x7b\t".toList = true ∧
      "  Map<É, T_1\n> \x7b\t".toList ∈ openingLines ∧
      isBlank "  Map<É, T_1\n> \x7b\t".toList = false := by
  have haccepted : isOpeningBraceLine "  Map<É, T_1\n> \x7b\t".toList = true := by decide
  obtain ⟨hiff, hmarks⟩ := isOpeningBraceLine_recognizes "  Map<É, T_1\n> \x7b\t".toList
  exact ⟨haccepted, hiff.1 haccepted, (hmarks haccepted).2.2⟩

end ClassSpacing.Text
