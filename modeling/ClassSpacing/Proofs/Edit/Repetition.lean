import ClassSpacing.Proofs.Edit.Reversal
import ClassSpacing.Proofs.Workspace.Layout

/-!
# Making an edit twice

The second time, an edit looks at the same bytes as the first time. If the new text is as long as
what it replaced, it is found there and nothing happens. Otherwise the span holds the start of the
new text, or all of it with some of what follows; where that is what is expected, the edit is made
once more. So an insertion is repeated, and a deletion goes on with the next copy of the same text.
`Edit.settles_iff` says that nothing else can happen, in a text and in a file.
-/

namespace ClassSpacing

open Text

namespace Edit

variable {e : Edit} {content before found after : Text}

/-! ## What the span holds -/

theorem inspect_eq_pending_iff :
    e.inspect content = .ok .pending ↔ ∃ before found after, e.Parts content before found after ∧
      found ≠ e.newText ∧ e.expected.isMet found = true := by
  constructor
  · intro h
    obtain ⟨before, found, after, rfl, hstart, hstop⟩ := exists_of_inspect h
    rw [inspect_append hstart hstop] at h
    split_ifs at h with hnew hmet
    · cases h
    · exact ⟨before, found, after, ⟨rfl, hstart, hstop⟩, hnew, hmet⟩
  · rintro ⟨before, found, after, ⟨rfl, hstart, hstop⟩, hnew, hmet⟩
    rw [inspect_append hstart hstop, if_neg hnew, if_pos hmet]

/-- An edit leaves a text alone, or does not apply to it, exactly if it has nothing to do there. -/
theorem forall_applyTo_eq_iff :
    (∀ result, e.applyTo content = .ok result → result = content) ↔
      e.inspect content ≠ .ok .pending := by
  constructor
  · intro h hpending
    obtain ⟨before, found, after, hparts, hnew, hmet⟩ := inspect_eq_pending_iff.1 hpending
    have hresult := h _ (applyTo_eq_ok_iff.2 ⟨before, found, after, hparts, .inr hmet, rfl⟩)
    rw [hparts.content_eq, List.append_cancel_left_eq, List.append_cancel_right_eq] at hresult
    exact hnew hresult.symm
  · intro hpending result h
    obtain ⟨before, found, after, hparts, hmet, rfl⟩ := applyTo_eq_ok_iff.1 h
    by_cases hnew : found = e.newText
    · rw [hparts.content_eq, hnew]
    · exact absurd (inspect_eq_pending_iff.2
        ⟨before, found, after, hparts, hnew, hmet.resolve_left hnew⟩) hpending

/-! ## What the span holds afterwards -/

/-- Once an edit of a text is made, its span holds what is expected again, and not the new text. -/
def Recurs (e : Edit) (content : Text) : Prop :=
  ∃ before found after again rest, e.Parts content before found after ∧
    e.newText ++ after = again ++ rest ∧ again.byteLength = found.byteLength ∧
    again ≠ e.newText ∧ e.expected.isMet again = true

/-- Only edits that change the length of a text can recur. -/
theorem Recurs.length_ne (h : e.Recurs content) : e.newText.byteLength ≠ e.stop - e.start := by
  obtain ⟨before, found, after, again, rest, hparts, hagain, hlen, hne, -⟩ := h
  intro heq
  rw [← hparts.length_found, ← hlen] at heq
  exact hne (append_inj_of_byteLength hagain heq).1.symm

theorem Parts.recurs_iff (h : e.Parts content before found after) :
    e.Recurs content ↔ e.inspect (before ++ (e.newText ++ after)) = .ok .pending := by
  rw [inspect_eq_pending_iff]
  constructor
  · rintro ⟨before', found', after', again, rest, hparts, hagain, hlen, hne, hmet⟩
    obtain ⟨rfl, rfl, rfl⟩ := hparts.unique h
    refine ⟨before', again, rest, ⟨?_, h.start_eq, ?_⟩, hne, hmet⟩
    · rw [hagain]
    · rw [hlen, h.stop_eq]
  · rintro ⟨before', again, rest, hparts, hne, hmet⟩
    obtain ⟨rfl, hagain⟩ := append_inj_of_byteLength hparts.content_eq
      (h.start_eq.symm.trans hparts.start_eq)
    exact ⟨before, found, after, again, rest, h, hagain,
      hparts.length_found.trans h.length_found.symm, hne, hmet⟩

theorem recurs_iff_of_applyTo {result : Text} (h : e.applyTo content = .ok result) :
    e.Recurs content ↔ e.inspect result = .ok .pending := by
  obtain ⟨before, found, after, hparts, -, rfl⟩ := applyTo_eq_ok_iff.1 h
  exact hparts.recurs_iff

end Edit

/-! ## Files -/

namespace Workspace

variable {ws ws' : Workspace} {e : Edit} {loc : Location} {content : Text} {outcome : EditResult}

/-- What an edit of a file comes to, by what its span holds. -/
theorem applyEdit_of_openFile (hopen : ws.openFile e.file = .ok (loc, Utf8.encode content)) :
    ws.applyEdit e = (e.inspect content).map fun
      | .done => (.alreadyApplied e.file, ws)
      | .pending => (.applied e.file e.newText.byteLength,
          ws.put loc (Utf8.encode (Edit.splice content e.start e.stop e.newText))) := by
  have hdecode : Utf8.decode (Utf8.encode content) = .ok content := Utf8.decode_eq_ok_iff.2 rfl
  simp only [applyEdit, hopen, hdecode]
  cases e.inspect content with
  | error cause => rfl
  | ok status => cases status <;> rfl

/-- An edit of a file that is made leaves the edited text in it. -/
theorem exists_of_applyEdit (h : ws.applyEdit e = .ok (outcome, ws')) :
    ∃ loc content result, ws.openFile e.file = .ok (loc, Utf8.encode content) ∧
      e.applyTo content = .ok result ∧ ws'.openFile e.file = .ok (loc, Utf8.encode result) := by
  cases hopen : ws.openFile e.file with
  | error fault => simp [applyEdit, hopen] at h
  | ok opened =>
    obtain ⟨loc, bytes⟩ := opened
    cases hdecode : Utf8.decode bytes with
    | error fault => simp [applyEdit, hopen, hdecode] at h
    | ok content =>
      obtain rfl := Utf8.decode_eq_ok_iff.1 hdecode
      rw [applyEdit_of_openFile hopen] at h
      cases hinspect : e.inspect content with
      | error cause => simp [hinspect, Except.map] at h
      | ok status =>
        rw [hinspect] at h
        cases status with
        | done =>
          obtain ⟨-, rfl⟩ := Prod.mk.inj (Except.ok.inj h)
          refine ⟨loc, content, content, rfl, ?_, hopen⟩
          simp only [Edit.applyTo, hinspect]
          rfl
        | pending =>
          obtain ⟨-, rfl⟩ := Prod.mk.inj (Except.ok.inj h)
          refine ⟨loc, content, _, rfl, ?_, openFile_put hopen _⟩
          simp only [Edit.applyTo, hinspect]
          rfl

/-- An edit leaves a file alone, or does not apply to it, exactly if it has nothing to do there. -/
theorem forall_applyEdit_eq_iff (hopen : ws.openFile e.file = .ok (loc, Utf8.encode content)) :
    (∀ outcome ws', ws.applyEdit e = .ok (outcome, ws') →
        outcome = .alreadyApplied e.file ∧ ws' = ws) ↔ e.inspect content ≠ .ok .pending := by
  rw [applyEdit_of_openFile hopen]
  cases e.inspect content with
  | error cause => simp [Except.map]
  | ok status => cases status <;> simp [Except.map]

end Workspace

namespace Edit

/-- A second application of an edit leaves the text alone or fails, unless its span holds what is
    expected once more; the same goes for a file. Only an edit that changes the length can recur. -/
theorem settles_iff (e : Edit) :
    (∀ content result, e.applyTo content = .ok result →
      ((∀ again, e.applyTo result = .ok again → again = result) ↔ ¬ e.Recurs content)) ∧
    (∀ (ws ws' : Workspace) outcome, ws.applyEdit e = .ok (outcome, ws') →
      ∃ loc content, ws.openFile e.file = .ok (loc, Utf8.encode content) ∧
        ((∀ again ws'', ws'.applyEdit e = .ok (again, ws'') →
          again = .alreadyApplied e.file ∧ ws'' = ws') ↔ ¬ e.Recurs content)) ∧
    ∀ content, e.Recurs content → e.newText.byteLength ≠ e.stop - e.start := by
  refine ⟨fun content result h => ?_, fun ws ws' outcome h => ?_, fun content => Recurs.length_ne⟩
  · rw [forall_applyTo_eq_iff, recurs_iff_of_applyTo h]
  · obtain ⟨loc, content, result, hopen, happly, hopen'⟩ := Workspace.exists_of_applyEdit h
    refine ⟨loc, content, hopen, ?_⟩
    rw [Workspace.forall_applyEdit_eq_iff hopen', recurs_iff_of_applyTo happly]

end Edit

/-! ## An insertion that is made twice -/

namespace Inserted

def content : Text := "class A \x7b\x7d".toList

/-- The edit that ends the line behind the text. -/
def edit : Edit := .make ⟨"a.ts"⟩ 10 10 ['\n'] []

def workspace : Workspace := { files := [(["a.ts"], Utf8.encode content)] }

/-- Each application adds a line feed, to the text and to the file. -/
theorem settles_iff_inserted :
    edit.applyTo content = .ok (content ++ ['\n']) ∧
      edit.applyTo (content ++ ['\n']) = .ok (content ++ ['\n', '\n']) ∧
      edit.Recurs content ∧
      (¬ ∀ again, edit.applyTo (content ++ ['\n']) = .ok again → again = content ++ ['\n']) ∧
      ∃ outcome ws', workspace.applyEdit edit = .ok (outcome, ws') ∧
        ¬ ∀ again ws'', ws'.applyEdit edit = .ok (again, ws'') →
          again = .alreadyApplied ⟨"a.ts"⟩ ∧ ws'' = ws' := by
  obtain ⟨htext, hfile, -⟩ := Edit.settles_iff edit
  have hrecurs : edit.Recurs content :=
    ⟨content, [], [], [], ['\n'], ⟨rfl, rfl, rfl⟩, rfl, rfl, by decide, rfl⟩
  have hfirst : edit.applyTo content = .ok (content ++ ['\n']) := rfl
  have hopen : workspace.openFile edit.file = .ok (["a.ts"], Utf8.encode content) := rfl
  have hinspect : edit.inspect content = .ok .pending := rfl
  obtain ⟨outcome, ws', hedit⟩ : ∃ outcome ws', workspace.applyEdit edit = .ok (outcome, ws') := by
    rw [Workspace.applyEdit_of_openFile hopen, hinspect]
    exact ⟨_, _, rfl⟩
  refine ⟨hfirst, rfl, hrecurs, fun h => (htext _ _ hfirst).1 h hrecurs, outcome, ws', hedit,
    fun h => ?_⟩
  obtain ⟨loc, held, hheld, hiff⟩ := hfile workspace ws' outcome hedit
  -- What the file holds is the text that the edit recurs in.
  obtain ⟨-, hbytes⟩ := Prod.mk.inj (Except.ok.inj (hopen.symm.trans hheld))
  obtain rfl := Utf8.encode_inj.1 hbytes
  exact hiff.1 h hrecurs

end Inserted

end ClassSpacing
