import ClassSpacing.Proofs.Fix.Pass
import ClassSpacing.Proofs.Text.Utf8
import ClassSpacing.Workspace.Files

/-!
# Writing a fixed file

The fixed text of a file takes the place of the text that was checked, and only of that: what the
file holds behind it stays. The file is as fixed afterwards exactly if nothing was appended to it
since it was checked.
-/

namespace ClassSpacing

open Text

/-- No part of the content that is compared with the checked text has the digest of the checked text
    without being it. -/
def DigestTells (bytes : Bytes) (checked : Text) : Prop :=
  ∀ found tail, bytes = Utf8.encode (found ++ tail) → found.byteLength = checked.byteLength →
    Expectation.digestThreshold < checked.byteLength →
    Digest.xxh3 (Utf8.encode found) = Digest.xxh3 (Utf8.encode checked) → found = checked

/-- A part of the content is what is expected exactly if it is the checked text. -/
theorem DigestTells.isMet_iff {bytes : Bytes} {checked found tail : Text}
    (h : DigestTells bytes checked) (hbytes : bytes = Utf8.encode (found ++ tail))
    (hlen : found.byteLength = checked.byteLength) :
    (Expectation.ofText checked).isMet found = true ↔ found = checked := by
  constructor
  · intro hmet
    unfold Expectation.ofText at hmet
    split at hmet
    · rename_i hlong
      exact h found tail hbytes hlen hlong (eq_of_beq hmet).symm
    · exact (eq_of_beq hmet).symm
  · rintro rfl
    exact Expectation.isMet_ofText found

namespace Workspace

variable {ws : Workspace} {file : Path} {loc : Location} {bytes : Bytes} {checked fixed : Text}

theorem openFile_eq_ok_iff :
    ws.openFile file = .ok (loc, bytes) ↔
      ws.locate file = .ok loc ∧ ws.content? loc = some bytes := by
  unfold openFile
  cases hlocate : ws.locate file with
  | error fault => simp [bind, Except.bind]
  | ok place =>
    cases hcontent : ws.content? place with
    | none =>
      simp only [bind, Except.bind, hcontent, throw, throwThe, MonadExceptOf.throw]
      constructor
      · nofun
      · rintro ⟨hplace, hbytes⟩
        obtain rfl := Except.ok.inj hplace
        simp [hcontent] at hbytes
    | some found =>
      simp only [bind, Except.bind, hcontent, pure, Except.pure, Except.ok.injEq, Prod.mk.injEq]
      constructor
      · rintro ⟨rfl, rfl⟩
        exact ⟨rfl, hcontent⟩
      · rintro ⟨rfl, hbytes⟩
        exact ⟨rfl, Option.some.inj (hcontent.symm.trans hbytes)⟩

theorem content?_of_openFile (h : ws.openFile file = .ok (loc, bytes)) :
    ws.content? loc = some bytes :=
  (openFile_eq_ok_iff.1 h).2

/-- Where the file starts with a text as long as the checked one, that text decides what happens. -/
theorem writeFixed_inspects {found tail : Text}
    (hopen : ws.openFile file = .ok (loc, Utf8.encode (found ++ tail)))
    (hlen : found.byteLength = checked.byteLength) :
    ws.writeFixed file checked fixed =
      if found = fixed then .ok (.alreadyApplied file, ws)
      else if (Expectation.ofText checked).isMet found then
        .ok (.applied file fixed.byteLength, ws.put loc (Utf8.encode (fixed ++ tail)))
      else .error (.edit (.changed file 0 checked.byteLength found)) := by
  have hinspect : (Edit.make file 0 checked.byteLength fixed checked).inspect (found ++ tail) =
      if found = fixed then .ok .done
      else if (Expectation.ofText checked).isMet found then .ok .pending
      else .error (.changed file 0 checked.byteLength found) :=
    @Edit.inspect_append _ [] found tail rfl (by simp [Edit.make, hlen])
  have hsplice : Edit.splice (found ++ tail) 0 checked.byteLength fixed = fixed ++ tail := by
    have := Edit.splice_append [] found tail fixed
    simpa [hlen] using this
  have hdecode : Utf8.decode (Utf8.encode (found ++ tail)) = .ok (found ++ tail) :=
    Utf8.decode_eq_ok_iff.2 rfl
  simp only [Edit.make] at hinspect
  simp only [writeFixed, applyEdit, Edit.make, hopen, hdecode, hinspect, hsplice]
  split_ifs <;> rfl

/-- With no digest to mislead it, the text that is found is compared with the checked one. -/
theorem writeFixed_append {found tail : Text}
    (hopen : ws.openFile file = .ok (loc, Utf8.encode (found ++ tail)))
    (hdigest : DigestTells (Utf8.encode (found ++ tail)) checked)
    (hlen : found.byteLength = checked.byteLength) :
    ws.writeFixed file checked fixed =
      if found = fixed then .ok (.alreadyApplied file, ws)
      else if found = checked then
        .ok (.applied file fixed.byteLength, ws.put loc (Utf8.encode (fixed ++ tail)))
      else .error (.edit (.changed file 0 checked.byteLength found)) := by
  simp only [writeFixed_inspects hopen hlen, hdigest.isMet_iff rfl hlen]

/-- A file is only written or left alone if it starts with a text as long as the checked one. -/
theorem exists_append_of_writeFixed {result : EditResult} {ws' : Workspace}
    (hopen : ws.openFile file = .ok (loc, bytes))
    (h : ws.writeFixed file checked fixed = .ok (result, ws')) :
    ∃ found tail, bytes = Utf8.encode (found ++ tail) ∧
      found.byteLength = checked.byteLength := by
  have hfile : (Edit.make file 0 checked.byteLength fixed checked).file = file := rfl
  simp only [writeFixed, applyEdit, hfile, hopen] at h
  cases hdecode : Utf8.decode bytes with
  | error fault => simp [hdecode] at h
  | ok content =>
    rw [hdecode] at h
    cases hinspect : (Edit.make file 0 checked.byteLength fixed checked).inspect content with
    | error cause => simp [hinspect, bind, Except.bind] at h
    | ok status =>
      obtain ⟨before, found, tail, rfl, hstart, hstop⟩ := Edit.exists_of_inspect hinspect
      have hbefore : before = [] := by
        by_contra hne
        have := byteLength_pos hne
        rw [← hstart] at this
        exact Nat.lt_irrefl 0 this
      subst hbefore
      refine ⟨found, tail, Utf8.decode_eq_ok_iff.1 hdecode, ?_⟩
      simpa [Edit.make] using hstop.symm

/-- All that writing a fixed file can come to. -/
theorem writeFixed_eq_ok_iff (hopen : ws.openFile file = .ok (loc, bytes))
    (hdigest : DigestTells bytes checked) (fixed : Text) (result : EditResult) (ws' : Workspace) :
    ws.writeFixed file checked fixed = .ok (result, ws') ↔
      (∃ tail, bytes = Utf8.encode (checked ++ tail) ∧ checked ≠ fixed ∧
        result = .applied file fixed.byteLength ∧
        ws' = ws.put loc (Utf8.encode (fixed ++ tail))) ∨
      (∃ tail, bytes = Utf8.encode (fixed ++ tail) ∧ fixed.byteLength = checked.byteLength ∧
        result = .alreadyApplied file ∧ ws' = ws) := by
  constructor
  · intro h
    obtain ⟨found, tail, rfl, hlen⟩ := exists_append_of_writeFixed hopen h
    rw [writeFixed_append hopen hdigest hlen] at h
    split_ifs at h with hfixed hchecked
    · obtain ⟨rfl, rfl⟩ := Prod.mk.inj (Except.ok.inj h)
      subst hfixed
      exact .inr ⟨tail, rfl, hlen, rfl, rfl⟩
    · obtain ⟨rfl, rfl⟩ := Prod.mk.inj (Except.ok.inj h)
      subst hchecked
      exact .inl ⟨tail, rfl, hfixed, rfl, rfl⟩
  · rintro (⟨tail, rfl, hne, rfl, rfl⟩ | ⟨tail, rfl, hlen, rfl, rfl⟩)
    · rw [writeFixed_append hopen hdigest rfl, if_neg hne, if_pos rfl]
    · rw [writeFixed_append hopen hdigest hlen, if_pos rfl]

/-- Behind the fixed text there is nothing exactly if the file is that text. -/
theorem encode_append_eq_iff (t tail : Text) :
    Utf8.encode (t ++ tail) = Utf8.encode t ↔ tail = [] := by
  rw [Utf8.encode_inj, List.append_right_eq_self]

/-- Writing a fixed file replaces the checked text at its start, or finds the fixed text there
    already, and refuses everything else. So the file holds what it should afterwards, and is only
    written if it was not changed, exactly if it has nothing behind that text. -/
theorem writeFixed_replaces_iff (hopen : ws.openFile file = .ok (loc, bytes))
    (hdigest : DigestTells bytes checked) (fixed : Text) :
    (∀ result ws', ws.writeFixed file checked fixed = .ok (result, ws') ↔
      (∃ tail, bytes = Utf8.encode (checked ++ tail) ∧ checked ≠ fixed ∧
        result = .applied file fixed.byteLength ∧
        ws' = ws.put loc (Utf8.encode (fixed ++ tail))) ∨
      (∃ tail, bytes = Utf8.encode (fixed ++ tail) ∧ fixed.byteLength = checked.byteLength ∧
        result = .alreadyApplied file ∧ ws' = ws)) ∧
    ((∀ result ws', ws.writeFixed file checked fixed = .ok (result, ws') →
        (result = .applied file fixed.byteLength → bytes = Utf8.encode checked) ∧
        ws'.content? loc = some (Utf8.encode fixed)) ↔
      ∀ tail, (bytes = Utf8.encode (checked ++ tail) ∨
        bytes = Utf8.encode (fixed ++ tail) ∧ fixed.byteLength = checked.byteLength) →
        tail = []) := by
  have hiff := writeFixed_eq_ok_iff hopen hdigest fixed
  have hcontent := content?_of_openFile hopen
  refine ⟨hiff, ?_, ?_⟩
  · intro hholds
    -- Each of the two ways to succeed leaves the tail where it is.
    have halready : ∀ tail, bytes = Utf8.encode (fixed ++ tail) →
        fixed.byteLength = checked.byteLength → tail = [] := by
      intro tail htail hlen
      have hafter := (hholds _ _ ((hiff _ _).2 (.inr ⟨tail, htail, hlen, rfl, rfl⟩))).2
      rw [hcontent, Option.some.injEq, htail] at hafter
      exact (encode_append_eq_iff fixed tail).1 hafter
    rintro tail (htail | ⟨htail, hlen⟩)
    · by_cases hsame : checked = fixed
      · subst hsame
        exact halready tail htail rfl
      · have hafter := (hholds _ _ ((hiff _ _).2 (.inl ⟨tail, htail, hsame, rfl, rfl⟩))).2
        rw [content?_put, if_pos rfl, Option.some.injEq] at hafter
        exact (encode_append_eq_iff fixed tail).1 hafter
    · exact halready tail htail hlen
  · intro hempty result ws' h
    rcases (hiff _ _).1 h with ⟨tail, htail, -, rfl, rfl⟩ | ⟨tail, htail, hlen, rfl, rfl⟩
    · obtain rfl := hempty tail (.inl htail)
      rw [List.append_nil] at htail ⊢
      exact ⟨fun _ => htail, by rw [content?_put, if_pos rfl]⟩
    · obtain rfl := hempty tail (.inr ⟨htail, hlen⟩)
      rw [List.append_nil] at htail
      exact ⟨nofun, by rw [hcontent, htail]⟩

/-- A line that was appended since the file was checked stays behind the fixed text. -/
theorem writeFixed_keeps_appended_line :
    let ws : Workspace := { files := [(["a.ts"], Utf8.encode "class A {}\nx".toList)] }
    ws.openFile ⟨"a.ts"⟩ = .ok (["a.ts"], Utf8.encode "class A {}\nx".toList) ∧
      DigestTells (Utf8.encode "class A {}\nx".toList) "class A {}\n".toList ∧
      ws.writeFixed ⟨"a.ts"⟩ "class A {}\n".toList "class A { }\n".toList =
        .ok (.applied ⟨"a.ts"⟩ 12, ws.put ["a.ts"] (Utf8.encode "class A { }\nx".toList)) ∧
      ¬ ∀ result ws', ws.writeFixed ⟨"a.ts"⟩ "class A {}\n".toList "class A { }\n".toList =
          .ok (result, ws') →
        (result = .applied ⟨"a.ts"⟩ 12 →
          Utf8.encode "class A {}\nx".toList = Utf8.encode "class A {}\n".toList) ∧
        ws'.content? ["a.ts"] = some (Utf8.encode "class A { }\n".toList) := by
  have hopen : ({ files := [(["a.ts"], Utf8.encode "class A {}\nx".toList)] } : Workspace).openFile
      ⟨"a.ts"⟩ = .ok (["a.ts"], Utf8.encode "class A {}\nx".toList) := rfl
  have hdigest : DigestTells (Utf8.encode "class A {}\nx".toList) "class A {}\n".toList :=
    fun _ _ _ _ hlong => absurd hlong (by decide)
  obtain ⟨hiff, hholds⟩ := writeFixed_replaces_iff hopen hdigest "class A { }\n".toList
  refine ⟨hopen, hdigest, (hiff _ _).2 (.inl ⟨['x'], by decide, by decide, rfl, rfl⟩), fun h => ?_⟩
  exact absurd (hholds.1 h ['x'] (.inl (by decide))) (by decide)

end Workspace

end ClassSpacing
