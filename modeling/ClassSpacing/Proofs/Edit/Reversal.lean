import ClassSpacing.Proofs.Fix.Substitution

/-!
# Undoing an edit

An edit that applies cuts the text into what stands before its span, what the span holds and what
stands behind it, and puts the new text in the middle. The edit the other way round finds the new
text there and puts back what was there before, however long the two are and whether the text to
expect is remembered as it is or by its digest.
-/

namespace ClassSpacing

open Text

namespace Edit

/-! ## The parts of a text around the span of an edit -/

namespace Parts

variable {e : Edit} {content before found after : Text}

theorem slice?_eq (h : e.Parts content before found after) :
    content.slice? e.start e.stop = some found :=
  slice?_eq_some_iff.2 ⟨before, after, by simp [h.content_eq], h.start_eq.symm, by
    rw [h.start_eq, h.stop_eq]⟩

theorem length_found (h : e.Parts content before found after) :
    found.byteLength = e.stop - e.start := by
  rw [h.start_eq, h.stop_eq, Nat.add_sub_cancel_left]

/-- There is one way to cut a text at the span of an edit. -/
theorem unique {before' found' after' : Text} (h : e.Parts content before found after)
    (h' : e.Parts content before' found' after') :
    before = before' ∧ found = found' ∧ after = after' := by
  obtain ⟨hbefore, hrest⟩ := append_inj_of_byteLength (h.content_eq.symm.trans h'.content_eq)
    (h.start_eq.symm.trans h'.start_eq)
  obtain ⟨hfound, hafter⟩ := append_inj_of_byteLength hrest
    (h.length_found.trans h'.length_found.symm)
  exact ⟨hbefore, hfound, hafter⟩

end Parts

variable {e : Edit} {content : Text}

/-- A text has the span of an edit exactly if the span lies in it and cuts no characters. -/
theorem exists_parts_iff :
    (∃ before found after, e.Parts content before found after) ↔
      e.start ≤ e.stop ∧ e.stop ≤ content.byteLength ∧ content.isBoundary e.start = true ∧
        content.isBoundary e.stop = true := by
  constructor
  · rintro ⟨before, found, after, rfl, hstart, hstop⟩
    refine ⟨by omega, ?_, isBoundary_iff.2 ⟨before, found ++ after, rfl, hstart.symm⟩,
      isBoundary_iff.2 ⟨before ++ found, after, by simp, by simp [hstop]⟩⟩
    rw [hstop, byteLength_append, byteLength_append]
    omega
  · rintro ⟨hle, -, hstart, hstop⟩
    obtain ⟨before, rest, hbefore, hlen⟩ := isBoundary_iff.1 hstart
    obtain ⟨front, after, hfront, hlen'⟩ := isBoundary_iff.1 hstop
    obtain ⟨found, rfl, rfl⟩ := exists_append_of_byteLength_le (hbefore.symm.trans hfront)
      (by omega)
    exact ⟨before, found, after, hbefore, hlen.symm, by rw [← hlen', byteLength_append]⟩

/-! ## The edit the other way round -/

/-- The edit that puts `found` back where an edit has put its new text. -/
def reverse (e : Edit) (found : Text) : Edit :=
  .make e.file e.start (e.start + e.newText.byteLength) found e.newText

theorem expected_reverse (e : Edit) (found : Text) :
    (e.reverse found).expected = .ofText e.newText := rfl

theorem Parts.reverse {before found after : Text} (h : e.Parts content before found after) :
    (e.reverse found).Parts (before ++ (e.newText ++ after)) before e.newText after :=
  ⟨rfl, h.start_eq, congrArg (· + e.newText.byteLength) h.start_eq⟩

/-- An edit applies exactly if its span lies in the text, cuts no characters and holds the new text
    or what is expected. It then replaces the span and nothing else, and the edit the other way
    round applies to the result and restores the text. -/
theorem applyTo_isReversible (e : Edit) (content : Text) :
    ((∃ result, e.applyTo content = .ok result) ↔
      e.start ≤ e.stop ∧ e.stop ≤ content.byteLength ∧ content.isBoundary e.start = true ∧
        content.isBoundary e.stop = true ∧ ∃ found, content.slice? e.start e.stop = some found ∧
          (found = e.newText ∨ e.expected.isMet found = true)) ∧
      ∀ result, e.applyTo content = .ok result → ∃ before found after,
        e.Parts content before found after ∧ result = before ++ (e.newText ++ after) ∧
          (e.reverse found).applyTo result = .ok content := by
  refine ⟨⟨?_, ?_⟩, ?_⟩
  · rintro ⟨result, h⟩
    obtain ⟨before, found, after, hparts, hmet, -⟩ := applyTo_eq_ok_iff.1 h
    obtain ⟨horder, hrange, hstart, hstop⟩ := exists_parts_iff.1 ⟨before, found, after, hparts⟩
    exact ⟨horder, hrange, hstart, hstop, found, hparts.slice?_eq, hmet⟩
  · rintro ⟨horder, hrange, hstart, hstop, found, hslice, hmet⟩
    obtain ⟨before, found', after, hparts⟩ := exists_parts_iff.2 ⟨horder, hrange, hstart, hstop⟩
    obtain rfl : found' = found := Option.some.inj (hparts.slice?_eq.symm.trans hslice)
    exact ⟨_, applyTo_eq_ok_iff.2 ⟨before, found', after, hparts, hmet, rfl⟩⟩
  · intro result h
    obtain ⟨before, found, after, hparts, -, rfl⟩ := applyTo_eq_ok_iff.1 h
    refine ⟨before, found, after, hparts, rfl, applyTo_eq_ok_iff.2
      ⟨before, e.newText, after, hparts.reverse, .inr ?_, hparts.content_eq⟩⟩
    rw [expected_reverse]
    exact Expectation.isMet_ofText e.newText

end Edit

/-! ## A long text in place of a character -/

namespace Lengthened

/-- A text that is remembered by its digest. -/
def text : Text := List.replicate 2000 'x'

/-- The edit that puts the text in place of a character of two bytes. -/
def edit : Edit := .make ⟨"a.ts"⟩ 1 3 text ['é']

theorem applyTo_isReversible_lengthened :
    edit.applyTo ['a', 'é', 'b'] = .ok (['a'] ++ (text ++ ['b'])) ∧
      (edit.reverse ['é']).expected = .digest (Digest.xxh3 (Utf8.encode text)) ∧
      (edit.reverse ['é']).applyTo (['a'] ++ (text ++ ['b'])) = .ok ['a', 'é', 'b'] := by
  have hparts : edit.Parts ['a', 'é', 'b'] ['a'] ['é'] ['b'] := ⟨rfl, rfl, rfl⟩
  have hlong : Expectation.digestThreshold < text.byteLength := by
    rw [text, Fix.byteLength_replicate]
    decide
  have hexpected : (edit.reverse ['é']).expected = .digest (Digest.xxh3 (Utf8.encode text)) := by
    have hnew : edit.newText = text := rfl
    rw [Edit.expected_reverse, hnew, Expectation.ofText, if_pos hlong]
  obtain ⟨hiff, hreverse⟩ := Edit.applyTo_isReversible edit ['a', 'é', 'b']
  obtain ⟨result, happly⟩ := hiff.2 ⟨by decide, by decide, by decide, by decide, ['é'],
    hparts.slice?_eq, .inr (Expectation.isMet_ofText ['é'])⟩
  obtain ⟨before, found, after, hparts', rfl, hback⟩ := hreverse result happly
  obtain ⟨rfl, rfl, rfl⟩ := hparts'.unique hparts
  exact ⟨happly, hexpected, hback⟩

end Lengthened

end ClassSpacing
