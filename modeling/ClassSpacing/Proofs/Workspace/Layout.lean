import ClassSpacing.Proofs.Workspace.WriteFixed
import ClassSpacing.Workspace.Collect

/-!
# Writing into files that are there

Which files and directories a path leads to depends on where files stand, not on what they hold:
where two workspaces have the same layout, the same files are collected and the same configuration
is found. Writing into files that are there keeps the layout. `Frame` says this of a run, and that
it leaves alone what none of its paths leads to.
-/

namespace ClassSpacing

namespace Workspace

/-- The files and the directories of two workspaces stand in the same places. -/
structure SameLayout (ws ws' : Workspace) : Prop where
  locations_eq : ws'.files.map (·.1) = ws.files.map (·.1)
  directories_eq : ws'.directories = ws.directories
  current_eq : ws'.current = ws.current

/-! ## What depends on the layout only -/

theorem isSome_content?_iff {ws : Workspace} {loc : Location} :
    (ws.content? loc).isSome ↔ loc ∈ ws.files.map (·.1) := by
  unfold content?
  induction ws.files with
  | nil => simp
  | cons entry rest ih =>
    obtain ⟨l, b⟩ := entry
    rw [lookup_cons_eq_ite, List.map_cons, List.mem_cons, ← ih]
    by_cases h : loc = l <;> simp [h]

namespace SameLayout

variable {ws ws' : Workspace}

theorem refl (ws : Workspace) : ws.SameLayout ws :=
  ⟨rfl, rfl, rfl⟩

theorem trans {ws'' : Workspace} (h : ws.SameLayout ws') (h' : ws'.SameLayout ws'') :
    ws.SameLayout ws'' :=
  ⟨h'.locations_eq.trans h.locations_eq, h'.directories_eq.trans h.directories_eq,
    h'.current_eq.trans h.current_eq⟩

theorem isSome_content?_eq (h : ws.SameLayout ws') (loc : Location) :
    (ws'.content? loc).isSome = (ws.content? loc).isSome := by
  rw [Bool.eq_iff_iff, isSome_content?_iff, isSome_content?_iff, h.locations_eq]

theorem hasDirectory_eq (h : ws.SameLayout ws') (loc : Location) :
    ws'.hasDirectory loc = ws.hasDirectory loc := by
  have hmap : ∀ w : Workspace, w.hasDirectory loc =
      (loc.isEmpty || w.directories.any (loc.isPrefixOf ·) ||
        (w.files.map (·.1)).any fun file => loc.isPrefixOf file && loc != file) := by
    intro w
    rw [List.any_map]
    rfl
  rw [hmap, hmap, h.locations_eq, h.directories_eq]

theorem kindAt?_eq (h : ws.SameLayout ws') (loc : Location) : ws'.kindAt? loc = ws.kindAt? loc := by
  simp only [kindAt?, h.isSome_content?_eq, h.hasDirectory_eq]

theorem step_eq (h : ws.SameLayout ws') : ws'.step = ws.step := by
  funext loc word
  simp only [step, h.kindAt?_eq]

theorem locate_eq (h : ws.SameLayout ws') (p : Path) : ws'.locate p = ws.locate p := by
  simp only [locate, startOf, h.step_eq, h.current_eq]

end SameLayout

/-! ## Reading and writing a file -/

theorem map_fst_putContent {files : List (Location × Bytes)} {loc : Location}
    (h : loc ∈ files.map (·.1)) (bytes : Bytes) :
    (putContent loc bytes files).map (·.1) = files.map (·.1) := by
  induction files with
  | nil => simp at h
  | cons entry rest ih =>
    obtain ⟨l, b⟩ := entry
    by_cases hl : l = loc
    · simp [putContent, hl]
    · have hrest : loc ∈ rest.map (·.1) := (List.mem_cons.1 h).resolve_left (Ne.symm hl)
      simp [putContent, hl, ih hrest]

/-- Writing into a file that is there makes no new one. -/
theorem SameLayout.put {ws : Workspace} {loc : Location} {bytes : Bytes}
    (h : ws.content? loc = some bytes) (new : Bytes) : ws.SameLayout (ws.put loc new) where
  locations_eq := map_fst_putContent (isSome_content?_iff.1 (by simp [h])) new
  directories_eq := rfl
  current_eq := rfl

variable {ws : Workspace} {path : Path}

theorem readText_eq_ok_iff {text : Text} :
    ws.readText path = .ok text ↔ ∃ loc, ws.openFile path = .ok (loc, Utf8.encode text) := by
  constructor
  · intro h
    obtain ⟨bytes, hread, htext⟩ := Except.bind_eq_ok_iff.1 h
    obtain ⟨⟨loc, content⟩, hopen, hcontent⟩ := Except.bind_eq_ok_iff.1 hread
    obtain rfl : content = bytes := Except.ok.inj hcontent
    cases hdecode : Utf8.decode content with
    | error fault =>
      rw [hdecode] at htext
      cases htext
    | ok found =>
      rw [hdecode] at htext
      obtain rfl := Except.ok.inj htext
      exact ⟨loc, by rw [hopen, Utf8.decode_eq_ok_iff.1 hdecode]⟩
  · rintro ⟨loc, hopen⟩
    have hdecode : Utf8.decode (Utf8.encode text) = .ok text := Utf8.decode_eq_ok_iff.2 rfl
    simp [readText, Workspace.read, hopen, hdecode, bind, Except.bind, pure, Except.pure]

/-- The path of a written file leads to what was written. -/
theorem openFile_put {loc : Location} {bytes : Bytes}
    (hopen : ws.openFile path = .ok (loc, bytes)) (new : Bytes) :
    (ws.put loc new).openFile path = .ok (loc, new) := by
  obtain ⟨hlocate, hcontent⟩ := openFile_eq_ok_iff.1 hopen
  refine openFile_eq_ok_iff.2 ⟨?_, ?_⟩
  · rw [(SameLayout.put hcontent new).locate_eq, hlocate]
  · rw [content?_put, if_pos rfl]

/-- Two paths do not lead to the same place. -/
def Apart (ws : Workspace) (p q : Path) : Prop :=
  ∀ loc, ws.locate p = .ok loc → ws.locate q ≠ .ok loc

theorem Apart.symm {ws : Workspace} {p q : Path} (h : ws.Apart p q) : ws.Apart q p :=
  fun loc hq hp => h loc hp hq

/-- What a run does that only writes into the files that some paths lead to: all files stay where
    they are, and the others keep what they hold. -/
structure Frame (paths : List Path) (ws ws' : Workspace) : Prop extends SameLayout ws ws' where
  content?_eq : ∀ loc, (∀ p ∈ paths, ws.locate p ≠ .ok loc) → ws'.content? loc = ws.content? loc

namespace Frame

variable {paths : List Path} {ws ws' : Workspace}

theorem refl (paths : List Path) (ws : Workspace) : Frame paths ws ws :=
  ⟨.refl ws, fun _ _ => rfl⟩

theorem put {p : Path} {loc : Location} {bytes : Bytes}
    (hopen : ws.openFile p = .ok (loc, bytes)) (new : Bytes) :
    Frame [p] ws (ws.put loc new) where
  toSameLayout := .put (content?_of_openFile hopen) new
  content?_eq loc' hloc' := by
    have hne : loc' ≠ loc := by
      rintro rfl
      exact hloc' p (List.mem_singleton.2 rfl) (openFile_eq_ok_iff.1 hopen).1
    rw [content?_put, if_neg hne]

/-- One more file is written before the others. -/
theorem cons {p : Path} {ws'' : Workspace} (h : Frame [p] ws ws') (h' : Frame paths ws' ws'') :
    Frame (p :: paths) ws ws'' where
  toSameLayout := h.toSameLayout.trans h'.toSameLayout
  content?_eq loc hloc := by
    rw [List.forall_mem_cons] at hloc
    rw [h'.content?_eq loc fun q hq => by rw [h.locate_eq]; exact hloc.2 q hq]
    exact h.content?_eq loc fun q hq => by rw [List.mem_singleton.1 hq]; exact hloc.1

end Frame

end Workspace

end ClassSpacing
