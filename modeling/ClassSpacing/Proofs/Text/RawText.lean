import ClassSpacing.Path
import ClassSpacing.Proofs.Text.Utf8
import Mathlib.Data.List.Basic

/-!
# Raw texts that are texts

`RawText.text?_eq_some_iff` says which raw texts are texts: the UTF-8 forms. These are shown as they
are.
-/

namespace ClassSpacing

namespace RawText

variable {r : RawText} {s t : String}

theorem text?_eq_some_iff : r.text? = some s ↔ r = s := by
  have hbytes : r = s ↔ r.bytes = Utf8.encode s.toList := RawText.ext_iff
  rw [hbytes, ← Utf8.decode_eq_ok_iff, text?]
  cases Utf8.decode r.bytes with
  | error fault => simp
  | ok u => simp [← String.toList_inj]

theorem ofString_inj : ofString s = ofString t ↔ s = t := by
  simp [ofString, Utf8.encode_inj, String.toList_inj]

/-- A text has nothing to blame. -/
theorem shown_ofString (s : String) : shown s = s := by
  have hdecode : Utf8.decode (ofString s).bytes = .ok s.toList := Utf8.decode_eq_ok_iff.2 rfl
  simp [shown, allStretches, stretches, hdecode]

/-- Only a dot has a dot for its first byte. -/
theorem head?_utf8EncodeChar_eq_dot {c : Char}
    (h : (String.utf8EncodeChar c).head? = some Path.dot) : c = '.' := by
  have hspells := Utf8.spells_utf8EncodeChar c
  cases hbytes : String.utf8EncodeChar c with
  | nil => simp [hbytes] at h
  | cons b rest =>
    rw [hbytes] at hspells h
    obtain rfl := Option.some.inj h
    have hdot : Path.dot.toNat = 0x2E := rfl
    cases hspells with
    | one _ hn => exact Char.toNat_inj.1 hn
    | two h₀ => omega
    | three h₀ => omega
    | four h₀ => omega

/-- A text starts with the byte of a dot if it starts with a dot. -/
theorem head?_bytes_eq_dot_iff (s : String) :
    (s : RawText).bytes.head? = some Path.dot ↔ s.toList.head? = some '.' := by
  cases hs : s.toList with
  | nil => simp [ofString, hs, Utf8.encode]
  | cons c t =>
    have hne : String.utf8EncodeChar c ≠ [] := String.utf8EncodeChar_ne_nil
    rw [ofString, hs, Utf8.encode_cons, List.head?_append_of_ne_nil _ hne, List.head?_cons,
      Option.some.injEq]
    refine ⟨head?_utf8EncodeChar_eq_dot, ?_⟩
    rintro rfl
    rfl

end RawText

theorem Path.text_mk (s : String) : Path.text ⟨s⟩ = s :=
  RawText.shown_ofString s

end ClassSpacing
