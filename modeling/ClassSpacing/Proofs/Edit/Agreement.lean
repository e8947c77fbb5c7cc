import ClassSpacing.Proofs.Edit.Repetition

/-!
# Edits of texts and of files

An edit of a file reads the file, looks at the span of the edit, and only then makes the edit of the
text that it found. `Workspace.attempt` is such an edit with the workspace that it leaves, also
where it fails. It comes to what the edit of the text comes to: the file holds the edited text
afterwards, or the failure is the same and nothing has changed. What can go wrong before is that
there is no file, or that it holds no text.
-/

namespace ClassSpacing

open Text

namespace Edit

variable {e : Edit} {content : Text}

/-! ## The look at the span and the edit of the text -/

theorem inspect_eq_done_iff :
    e.inspect content = .ok .done ↔ content.slice? e.start e.stop = some e.newText := by
  constructor
  · intro h
    obtain ⟨before, found, after, rfl, hstart, hstop⟩ := exists_of_inspect h
    have hparts : e.Parts _ before found after := ⟨rfl, hstart, hstop⟩
    rw [inspect_append hstart hstop] at h
    split_ifs at h with hnew
    · rw [hparts.slice?_eq, hnew]
    · cases h
  · intro h
    obtain ⟨before, after, hcontent, hstart, hstop⟩ := slice?_eq_some_iff.1 h
    have hparts : e.Parts content before e.newText after :=
      ⟨by rw [hcontent, List.append_assoc], hstart.symm, by rw [hstop, hstart]⟩
    rw [hparts.content_eq, inspect_append hparts.start_eq hparts.stop_eq, if_pos rfl]

theorem inspect_eq_error_iff {cause : EditError} :
    e.inspect content = .error cause ↔ e.applyTo content = .error cause := by
  unfold applyTo
  cases e.inspect content with
  | error other => simp [bind, Except.bind]
  | ok status => cases status <;> simp [bind, Except.bind, pure, Except.pure]

/-- Where the span does not hold the new text, the edit is pending or does not apply. -/
theorem inspect_eq_map_applyTo (h : content.slice? e.start e.stop ≠ some e.newText) :
    e.inspect content = (e.applyTo content).map fun _ => .pending := by
  cases hinspect : e.inspect content with
  | error cause =>
    rw [inspect_eq_error_iff.1 hinspect]
    rfl
  | ok status =>
    cases status with
    | done => exact absurd (inspect_eq_done_iff.1 hinspect) h
    | pending =>
      unfold applyTo
      rw [hinspect]
      rfl

end Edit

namespace Workspace

variable {ws : Workspace} {e : Edit} {loc : Location} {bytes : Bytes} {content : Text}

/-! ## Edits that may fail -/

/-- What an edit of a file comes to, and the workspace that it leaves. -/
def attempt (ws : Workspace) (e : Edit) : Except EditError EditResult × Workspace :=
  match ws.applyEdit e with
  | .ok (outcome, ws') => (.ok outcome, ws')
  | .error cause => (.error cause, ws)

theorem attempt_of_fault {fault : FileFault} (h : ws.openFile e.file = .error fault) :
    ws.attempt e = (.error (.store fault), ws) := by
  simp [attempt, applyEdit, h]

theorem attempt_of_notUtf8 {fault : Utf8.Fault} (hopen : ws.openFile e.file = .ok (loc, bytes))
    (h : Utf8.decode bytes = .error fault) : ws.attempt e = (.error (.notUtf8 fault), ws) := by
  simp [attempt, applyEdit, hopen, h]

/-- A file with the new text in the span is left alone. -/
theorem attempt_of_done (hopen : ws.openFile e.file = .ok (loc, Utf8.encode content))
    (h : content.slice? e.start e.stop = some e.newText) :
    ws.attempt e = (.ok (.alreadyApplied e.file), ws) := by
  rw [attempt, applyEdit_of_openFile hopen, Edit.inspect_eq_done_iff.2 h]
  rfl

/-- Any other text of a file is edited as a text on its own is. -/
theorem attempt_of_openFile (hopen : ws.openFile e.file = .ok (loc, Utf8.encode content))
    (h : content.slice? e.start e.stop ≠ some e.newText) :
    ws.attempt e = match e.applyTo content with
      | .ok result => (.ok (.applied e.file e.newText.byteLength), ws.put loc (Utf8.encode result))
      | .error cause => (.error cause, ws) := by
  rw [attempt, applyEdit_of_openFile hopen]
  cases happly : e.applyTo content with
  | error cause =>
    rw [Edit.inspect_eq_error_iff.2 happly]
    rfl
  | ok result =>
    have hinspect := Edit.inspect_eq_map_applyTo h
    rw [happly] at hinspect
    have hresult : Edit.splice content e.start e.stop e.newText = result := by
      unfold Edit.applyTo at happly
      rw [hinspect] at happly
      exact Except.ok.inj happly
    rw [hinspect, ← hresult]
    rfl

/-- All that an edit of a file can come to, with what has to be the case for it. -/
inductive ComesTo (ws : Workspace) (e : Edit) : Except EditError EditResult × Workspace → Prop
  | fault {fault : FileFault} (h : ws.openFile e.file = .error fault) :
      ComesTo ws e (.error (.store fault), ws)
  | notUtf8 {loc : Location} {bytes : Bytes} {fault : Utf8.Fault}
      (hopen : ws.openFile e.file = .ok (loc, bytes)) (h : Utf8.decode bytes = .error fault) :
      ComesTo ws e (.error (.notUtf8 fault), ws)
  | refused {content : Text} {cause : EditError} (hread : ws.readText e.file = .ok content)
      (h : e.applyTo content = .error cause) : ComesTo ws e (.error cause, ws)
  | done {content : Text} (hread : ws.readText e.file = .ok content)
      (h : content.slice? e.start e.stop = some e.newText) :
      ComesTo ws e (.ok (.alreadyApplied e.file), ws)
  | made {loc : Location} {content result : Text}
      (hopen : ws.openFile e.file = .ok (loc, Utf8.encode content))
      (hnew : content.slice? e.start e.stop ≠ some e.newText)
      (h : e.applyTo content = .ok result) :
      ComesTo ws e (.ok (.applied e.file e.newText.byteLength), ws.put loc (Utf8.encode result))

theorem comesTo_attempt (ws : Workspace) (e : Edit) : ws.ComesTo e (ws.attempt e) := by
  cases hopen : ws.openFile e.file with
  | error fault =>
    rw [attempt_of_fault hopen]
    exact .fault hopen
  | ok opened =>
    obtain ⟨loc, bytes⟩ := opened
    cases hdecode : Utf8.decode bytes with
    | error fault =>
      rw [attempt_of_notUtf8 hopen hdecode]
      exact .notUtf8 hopen hdecode
    | ok content =>
      obtain rfl := Utf8.decode_eq_ok_iff.1 hdecode
      have hread := readText_eq_ok_iff.2 ⟨loc, hopen⟩
      by_cases hnew : content.slice? e.start e.stop = some e.newText
      · rw [attempt_of_done hopen hnew]
        exact .done hread hnew
      · rw [attempt_of_openFile hopen hnew]
        cases happly : e.applyTo content with
        | error cause => exact .refused hread happly
        | ok result => exact .made hopen hnew happly

/-! ## Which of them it is -/

theorem attempt_eq_applied_iff {file : Path} {count : Nat} :
    (ws.attempt e).1 = .ok (.applied file count) ↔
      file = e.file ∧ count = e.newText.byteLength ∧ ∃ content result,
        ws.readText e.file = .ok content ∧ e.applyTo content = .ok result ∧
          content.slice? e.start e.stop ≠ some e.newText := by
  constructor
  · intro h
    have hcomes := comesTo_attempt ws e
    generalize ws.attempt e = outcome at hcomes h
    cases hcomes with
    | made hopen hnew happly =>
      obtain ⟨rfl, rfl⟩ := EditResult.applied.inj (Except.ok.inj h)
      exact ⟨rfl, rfl, _, _, readText_eq_ok_iff.2 ⟨_, hopen⟩, happly, hnew⟩
    | _ => cases h
  · rintro ⟨rfl, rfl, content, result, hread, happly, hnew⟩
    obtain ⟨loc, hopen⟩ := readText_eq_ok_iff.1 hread
    rw [attempt_of_openFile hopen hnew, happly]

theorem attempt_eq_alreadyApplied_iff {file : Path} :
    (ws.attempt e).1 = .ok (.alreadyApplied file) ↔
      file = e.file ∧ ∃ content, ws.readText e.file = .ok content ∧
        content.slice? e.start e.stop = some e.newText := by
  constructor
  · intro h
    have hcomes := comesTo_attempt ws e
    generalize ws.attempt e = outcome at hcomes h
    cases hcomes with
    | done hread hnew =>
      obtain rfl := EditResult.alreadyApplied.inj (Except.ok.inj h)
      exact ⟨rfl, _, hread, hnew⟩
    | _ => cases h
  · rintro ⟨rfl, content, hread, hnew⟩
    obtain ⟨loc, hopen⟩ := readText_eq_ok_iff.1 hread
    rw [attempt_of_done hopen hnew]

theorem attempt_eq_error_iff {cause : EditError} :
    (ws.attempt e).1 = .error cause ↔
      (∃ fault, ws.openFile e.file = .error fault ∧ cause = .store fault) ∨
      (∃ loc bytes fault, ws.openFile e.file = .ok (loc, bytes) ∧
        Utf8.decode bytes = .error fault ∧ cause = .notUtf8 fault) ∨
      ∃ content, ws.readText e.file = .ok content ∧ e.applyTo content = .error cause := by
  constructor
  · intro h
    have hcomes := comesTo_attempt ws e
    generalize ws.attempt e = outcome at hcomes h
    cases hcomes with
    | fault hfault => exact .inl ⟨_, hfault, (Except.error.inj h).symm⟩
    | notUtf8 hopen hfault => exact .inr (.inl ⟨_, _, _, hopen, hfault, (Except.error.inj h).symm⟩)
    | refused hread happly => exact .inr (.inr ⟨_, hread, Except.error.inj h ▸ happly⟩)
    | _ => cases h
  · rintro (⟨fault, hfault, rfl⟩ | ⟨loc, bytes, fault, hopen, hfault, rfl⟩ |
      ⟨content, hread, happly⟩)
    · rw [attempt_of_fault hfault]
    · rw [attempt_of_notUtf8 hopen hfault]
    · obtain ⟨loc, hopen⟩ := readText_eq_ok_iff.1 hread
      have hnew : content.slice? e.start e.stop ≠ some e.newText := by
        intro hnew
        have hinspect := Edit.inspect_eq_error_iff.2 happly
        rw [Edit.inspect_eq_done_iff.2 hnew] at hinspect
        cases hinspect
      rw [attempt_of_openFile hopen hnew, happly]

/-- An edit of a file agrees with the edit of the text in it. It is made exactly if the edit applies
    to the text and its span does not hold the new text, and then the file holds the edited text and
    nothing else has changed. It has been made already exactly if the span holds the new text.
    Otherwise there is no file, or it holds no text, or the failure is that of the edit of the text.
    Unless it is made, the workspace stays as it is. -/
theorem attempt_agrees_with_applyTo (ws : Workspace) (e : Edit) :
    (∀ file count, (ws.attempt e).1 = .ok (.applied file count) ↔
      file = e.file ∧ count = e.newText.byteLength ∧ ∃ content result,
        ws.readText e.file = .ok content ∧ e.applyTo content = .ok result ∧
          content.slice? e.start e.stop ≠ some e.newText) ∧
    (∀ loc content result, ws.openFile e.file = .ok (loc, Utf8.encode content) →
      e.applyTo content = .ok result → content.slice? e.start e.stop ≠ some e.newText →
        (ws.attempt e).2.content? loc = some (Utf8.encode result) ∧
        (∀ other, other ≠ loc → (ws.attempt e).2.content? other = ws.content? other) ∧
        ws.SameLayout (ws.attempt e).2) ∧
    (∀ file, (ws.attempt e).1 = .ok (.alreadyApplied file) ↔
      file = e.file ∧ ∃ content, ws.readText e.file = .ok content ∧
        content.slice? e.start e.stop = some e.newText) ∧
    (∀ cause, (ws.attempt e).1 = .error cause ↔
      (∃ fault, ws.openFile e.file = .error fault ∧ cause = .store fault) ∨
      (∃ loc bytes fault, ws.openFile e.file = .ok (loc, bytes) ∧
        Utf8.decode bytes = .error fault ∧ cause = .notUtf8 fault) ∨
      ∃ content, ws.readText e.file = .ok content ∧ e.applyTo content = .error cause) ∧
    ((∀ file count, (ws.attempt e).1 ≠ .ok (.applied file count)) → (ws.attempt e).2 = ws) := by
  refine ⟨fun _ _ => attempt_eq_applied_iff, ?_, fun _ => attempt_eq_alreadyApplied_iff,
    fun _ => attempt_eq_error_iff, ?_⟩
  · intro loc content result hopen happly hnew
    rw [attempt_of_openFile hopen hnew, happly]
    refine ⟨?_, ?_, .put (content?_of_openFile hopen) _⟩
    · rw [content?_put, if_pos rfl]
    · intro other hother
      rw [content?_put, if_neg hother]
  · intro hmade
    have hcomes := comesTo_attempt ws e
    generalize ws.attempt e = outcome at hcomes hmade
    cases hcomes with
    | made => exact absurd rfl (hmade _ _)
    | _ => rfl

end Workspace

/-! ## A file with text, one without, and none -/

namespace Accented

def content : Text := ['é', ';']

/-- A file that holds the text, and one that holds no text at all. -/
def workspace : Workspace := { files := [(["a.ts"], Utf8.encode content), (["b.ts"], [0xFF])] }

/-- The edit that takes the accent away. -/
def edit (file : String) : Edit := .make ⟨file⟩ 0 2 ['e'] ['é']

/-- The edit is made in the first file and leaves the second one alone. It cannot be made in the
    second one, nor where there is no file. -/
theorem attempt_agrees_with_applyTo_accented :
    (workspace.attempt (edit "a.ts")).1 = .ok (.applied ⟨"a.ts"⟩ 1) ∧
      (workspace.attempt (edit "a.ts")).2.content? ["a.ts"] = some (Utf8.encode ['e', ';']) ∧
      (workspace.attempt (edit "a.ts")).2.content? ["b.ts"] = some [0xFF] ∧
      (workspace.attempt (edit "b.ts")).1 = .error (.notUtf8 ⟨0, some 1⟩) ∧
      (workspace.attempt (edit "b.ts")).2 = workspace ∧
      (workspace.attempt (edit "c.ts")).1 = .error (.store .notFound) := by
  have hopen : workspace.openFile (edit "a.ts").file = .ok (["a.ts"], Utf8.encode content) := rfl
  have happly : (edit "a.ts").applyTo content = .ok ['e', ';'] := rfl
  have hnew : content.slice? (edit "a.ts").start (edit "a.ts").stop ≠
      some (edit "a.ts").newText := by
    decide
  obtain ⟨happlied, hholds, -, -, -⟩ :=
    Workspace.attempt_agrees_with_applyTo workspace (edit "a.ts")
  obtain ⟨hcontent, hothers, -⟩ := hholds _ _ _ hopen happly hnew
  obtain ⟨-, -, -, herror, hstays⟩ := Workspace.attempt_agrees_with_applyTo workspace (edit "b.ts")
  obtain ⟨-, -, -, hmissing, -⟩ := Workspace.attempt_agrees_with_applyTo workspace (edit "c.ts")
  have hfault : (workspace.attempt (edit "b.ts")).1 = .error (.notUtf8 ⟨0, some 1⟩) :=
    (herror _).2 (.inr (.inl ⟨["b.ts"], [0xFF], _, rfl, by decide, rfl⟩))
  refine ⟨(happlied _ _).2 ⟨rfl, rfl, content, _, ?_, happly, hnew⟩, hcontent, ?_, hfault, ?_,
    (hmissing _).2 (.inl ⟨_, rfl, rfl⟩)⟩
  · exact Workspace.readText_eq_ok_iff.2 ⟨_, hopen⟩
  · exact hothers ["b.ts"] (by decide)
  · exact hstays fun _ _ h => by simp [hfault] at h

end Accented

end ClassSpacing
