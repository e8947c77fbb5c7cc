import ClassSpacing.Proofs.Command.Recheck
import ClassSpacing.Proofs.Workspace.Collect
import ClassSpacing.Proofs.Workspace.Places
import Mathlib.Algebra.BigOperators.Group.List.Lemmas
import Mathlib.Algebra.GroupWithZero.Nat

/-!
# Files with several spellings

Collected paths differ in their components, but paths with different components can lead to the
same file: `.` and `src` reach the files in `src` under two spellings. A check looks at a file once
for each of its spellings, comes to the same complaints each time, and counts it each time.
-/

namespace ClassSpacing

namespace Workspace

variable {ws : Workspace} {paths files : List Path} {p q : Path} {loc : Location}

/-- The place that a path leads to, if it leads to any. -/
def place? (ws : Workspace) (p : Path) : Option Location :=
  (ws.locate p).toOption

/-- The ways to write a path to a place, among the source files that some paths stand for. -/
def spellings (ws : Workspace) (paths : List Path) (loc : Location) : List (List Path.Component) :=
  (((paths.flatMap ws.expand).filter (ws.place? · == some loc)).map Path.components).dedup

/-- Whether a file at a place holds text. -/
def holdsText (ws : Workspace) (loc : Location) : Bool :=
  (ws.content? loc).any fun bytes => (Utf8.decode bytes).isOk

/-- The places of the source files that some paths stand for and that can be checked, each once. -/
def lintable (ws : Workspace) (paths : List Path) : List Location :=
  (((paths.flatMap ws.expand).filterMap ws.place?).filter ws.holdsText).dedup

/-! ## Collected files by their places -/

theorem place?_eq_some_iff : ws.place? p = some loc ↔ ws.locate p = .ok loc := by
  unfold place?
  cases ws.locate p <;> simp [Except.toOption]

/-- Two paths with the same components that both stand for source files lead to the same place. -/
theorem IsTree.place?_eq_of_components (htree : ws.IsTree) (hp : p ∈ paths.flatMap ws.expand)
    (hq : q ∈ paths.flatMap ws.expand) (heq : p.components = q.components) :
    ws.place? p = ws.place? q := by
  obtain ⟨_, -, hp⟩ := List.mem_flatMap.1 hp
  obtain ⟨_, -, hq⟩ := List.mem_flatMap.1 hq
  obtain ⟨loc, hloc, -⟩ := isFile_eq_true_iff.1 (htree.isFile_of_mem_expand hp).1
  obtain ⟨loc', hloc', -⟩ := isFile_eq_true_iff.1 (htree.isFile_of_mem_expand hq).1
  rw [place?_eq_some_iff.2 hloc, place?_eq_some_iff.2 hloc', locate_eq_move hloc,
    locate_eq_move hloc', heq]

/-- A collected file is a source file at some place. -/
theorem IsTree.exists_place_of_mem_collect (htree : ws.IsTree) (h : ws.collect paths = .ok files)
    (hp : p ∈ files) : ∃ loc, ws.locate p = .ok loc ∧ (Dialect.ofPath? p).isSome = true := by
  obtain ⟨_, -, hexpand⟩ := List.mem_flatMap.1 (mem_expand_of_mem_collect h hp)
  obtain ⟨hfile, hdialect⟩ := htree.isFile_of_mem_expand hexpand
  obtain ⟨loc, hloc, -⟩ := isFile_eq_true_iff.1 hfile
  exact ⟨loc, hloc, hdialect⟩

/-- A file is collected once for each spelling. -/
theorem IsTree.countP_collect (htree : ws.IsTree) (h : ws.collect paths = .ok files)
    (loc : Location) :
    files.countP (ws.place? · == some loc) = (ws.spellings paths loc).length := by
  have hnodup : ((files.filter (ws.place? · == some loc)).map Path.components).Nodup :=
    (nodup_map_components h).sublist (List.filter_sublist.map _)
  -- Neither list has the same components twice, so it is enough that they have the same members.
  rw [List.countP_eq_length_filter, ← List.length_map Path.components]
  refine List.Perm.length_eq ((List.perm_ext_iff_of_nodup hnodup (List.nodup_dedup _)).2 ?_)
  intro components
  rw [List.mem_dedup, List.mem_map, List.mem_map]
  constructor
  · rintro ⟨p, hp, rfl⟩
    obtain ⟨hmem, hplace⟩ := List.mem_filter.1 hp
    exact ⟨p, List.mem_filter.2 ⟨mem_expand_of_mem_collect h hmem, hplace⟩, rfl⟩
  · rintro ⟨q, hq, rfl⟩
    obtain ⟨hmem, hplace⟩ := List.mem_filter.1 hq
    obtain ⟨p, hp, heq⟩ := exists_mem_collect h hmem
    refine ⟨p, List.mem_filter.2 ⟨hp, ?_⟩, heq⟩
    rwa [htree.place?_eq_of_components (mem_expand_of_mem_collect h hp) hmem heq]

/-- The places of the collected files that can be checked, once for each file. -/
def textPlaces (ws : Workspace) (files : List Path) : List Location :=
  (files.filterMap ws.place?).filter ws.holdsText

/-- The places of the collected files are those that are reached. -/
theorem IsTree.dedup_textPlaces (htree : ws.IsTree) (h : ws.collect paths = .ok files) :
    (ws.textPlaces files).dedup.Perm (ws.lintable paths) := by
  refine (List.perm_ext_iff_of_nodup (List.nodup_dedup _) (List.nodup_dedup _)).2 fun loc => ?_
  rw [List.mem_dedup, List.mem_dedup, textPlaces, List.mem_filter, List.mem_filter,
    List.mem_filterMap, List.mem_filterMap]
  refine and_congr_left fun _ => ⟨?_, ?_⟩
  · rintro ⟨p, hp, hplace⟩
    exact ⟨p, mem_expand_of_mem_collect h hp, hplace⟩
  · rintro ⟨q, hq, hplace⟩
    obtain ⟨p, hp, heq⟩ := exists_mem_collect h hq
    refine ⟨p, hp, ?_⟩
    rwa [htree.place?_eq_of_components (mem_expand_of_mem_collect h hp) hq heq]

theorem IsTree.count_textPlaces (htree : ws.IsTree) (h : ws.collect paths = .ok files)
    (hloc : ws.holdsText loc = true) :
    (ws.textPlaces files).count loc = (ws.spellings paths loc).length := by
  rw [textPlaces, List.count_filter hloc, List.count_filterMap, htree.countP_collect h]

/-! ## What is found in them -/

variable {read : Reader} {rule : Rule}

/-- What is found in a source file depends on its text only. -/
theorem toOption_lintFile {dialect : Dialect} (hdialect : Dialect.ofPath? p = some dialect) :
    (ws.lintFile read rule p).toOption.map (·.diagnostics) =
      (ws.readText p).toOption.map (rule.findings read dialect) := by
  cases hread : ws.readText p with
  | error fault =>
    simp [lintFile, hdialect, hread, throw, throwThe, MonadExceptOf.throw, Except.toOption]
  | ok text =>
    obtain ⟨f, hf, -, -, hdiagnostics⟩ := exists_lintFile read rule hdialect hread
    simp [hf, hdiagnostics, Except.toOption]

theorem readText_eq_of_locate (h : ws.locate p = ws.locate q) : ws.readText p = ws.readText q := by
  simp only [readText, Workspace.read, openFile, h]

theorem isSome_readText (h : ws.locate p = .ok loc) :
    (ws.readText p).toOption.isSome = ws.holdsText loc := by
  unfold readText Workspace.read openFile holdsText
  rw [h]
  cases hcontent : ws.content? loc with
  | none =>
    simp [bind, Except.bind, hcontent, throw, throwThe, MonadExceptOf.throw, Except.toOption]
  | some bytes =>
    cases hdecode : Utf8.decode bytes <;>
      simp [bind, Except.bind, hcontent, hdecode, pure, Except.pure, throw, throwThe,
        MonadExceptOf.throw, Except.toOption, Except.isOk, Except.toBool]

/-- A source file can be checked if it holds text. -/
theorem isSome_lintFile (h : ws.locate p = .ok loc)
    (hdialect : (Dialect.ofPath? p).isSome = true) :
    (ws.lintFile read rule p).toOption.isSome = ws.holdsText loc := by
  obtain ⟨dialect, hdialect⟩ := Option.isSome_iff_exists.1 hdialect
  calc (ws.lintFile read rule p).toOption.isSome
      = ((ws.lintFile read rule p).toOption.map (·.diagnostics)).isSome := Option.isSome_map.symm
    _ = ((ws.readText p).toOption.map (rule.findings read dialect)).isSome := by
        rw [toOption_lintFile hdialect]
    _ = ws.holdsText loc := by rw [Option.isSome_map, isSome_readText h]

/-- Two paths of source files that lead to the same place find the same there. -/
theorem toOption_lintFile_eq (h : ws.locate p = ws.locate q) (hp : ws.locate p = .ok loc)
    (hdialect : (Dialect.ofPath? p).isSome = true) (hdialect' : (Dialect.ofPath? q).isSome = true) :
    (ws.lintFile read rule p).toOption.map (·.diagnostics) =
      (ws.lintFile read rule q).toOption.map (·.diagnostics) := by
  have hsame := ofPath?_eq_of_locate hp (h ▸ hp) hdialect hdialect'
  obtain ⟨dialect, hdialect⟩ := Option.isSome_iff_exists.1 hdialect
  rw [toOption_lintFile hdialect, toOption_lintFile (hsame ▸ hdialect), readText_eq_of_locate h]

end Workspace

/-! ## All files -/

namespace Report.Summary

theorem files_ofFiles (found : List (List Diagnostic)) : (ofFiles found).files = found.length := by
  rw [ofFiles_eq]

end Report.Summary

namespace Command

variable {ws : Workspace} {read : Reader} {s : Selection} {run : CheckRun}

/-- How many times a run looks at the file at a place. -/
def CheckRun.times (run : CheckRun) (ws : Workspace) (loc : Location) : Nat :=
  run.results.countP fun (path, _) => ws.place? path == some loc

/-- A run looks at the collected files. -/
theorem exists_collect_of_check (h : check read s ws = .ok (some run)) :
    ∃ files, ws.collect s.paths = .ok files ∧ run.results = checkFiles ws read run.rule files := by
  obtain ⟨target, htarget, hrun⟩ := Except.bind_eq_ok_iff.1 h
  rcases target with _ | ⟨rule, files⟩
  · cases hrun
  · obtain rfl := Option.some.inj (Except.ok.inj hrun)
    have hfiles := Selection.files_of_target? htarget
    unfold Selection.files at hfiles
    split at hfiles
    · next hcollect =>
      obtain rfl := Except.ok.inj hfiles
      exact ⟨_, hcollect, rfl⟩
    · cases hfiles

theorem times_checkFiles {files : List Path} (h : run.results = checkFiles ws read run.rule files)
    (loc : Location) : run.times ws loc = files.countP (ws.place? · == some loc) := by
  rw [CheckRun.times, h, checkFiles, List.countP_map]
  rfl

/-- The files that are counted are those at places that hold text. -/
theorem files_summary (htree : ws.IsTree) {files : List Path}
    (hfiles : ws.collect s.paths = .ok files)
    (hresults : run.results = checkFiles ws read run.rule files) :
    run.summary.files = (ws.textPlaces files).length := by
  have hlinted : run.summary.files =
      files.countP fun p => (ws.lintFile read run.rule p).toOption.isSome := by
    rw [CheckRun.summary, Report.Summary.files_ofFiles, List.length_map, CheckRun.linted, hresults,
      checkFiles, List.filterMap_map, List.length_filterMap_eq_countP]
    rfl
  rw [hlinted, Workspace.textPlaces, ← List.countP_eq_length_filter, List.countP_filterMap]
  refine List.countP_congr fun p hp => ?_
  obtain ⟨loc, hloc, hdialect⟩ := htree.exists_place_of_mem_collect hfiles hp
  rw [Workspace.isSome_lintFile hloc hdialect, Workspace.place?_eq_some_iff.2 hloc]
  rfl

/-- A check of a directory tree looks at each file once for every spelling that the selected paths
    give it, and finds the same each time. So the number of files in its summary is the number of
    spellings, which is the number of files if none of them has several. -/
theorem check_once_for_each_spelling (htree : ws.IsTree)
    (hrun : check read s ws = .ok (some run)) :
    (∀ loc, run.times ws loc = (ws.spellings s.paths loc).length) ∧
      (∀ r ∈ run.results, ∀ r' ∈ run.results, ws.locate r.1 = ws.locate r'.1 →
        r.2.toOption.map (·.diagnostics) = r'.2.toOption.map (·.diagnostics)) ∧
      run.summary.files =
        ((ws.lintable s.paths).map fun loc => (ws.spellings s.paths loc).length).sum ∧
      (run.summary.files = (ws.lintable s.paths).length ↔
        ∀ loc ∈ ws.lintable s.paths, run.times ws loc ≤ 1) := by
  obtain ⟨files, hfiles, hresults⟩ := exists_collect_of_check hrun
  have htimes : ∀ loc, run.times ws loc = (ws.spellings s.paths loc).length := by
    intro loc
    rw [times_checkFiles hresults, htree.countP_collect hfiles]
  have hcount : ∀ loc ∈ ws.lintable s.paths,
      (ws.textPlaces files).count loc = (ws.spellings s.paths loc).length := by
    intro loc hloc
    exact htree.count_textPlaces hfiles (List.mem_filter.1 (List.mem_dedup.1 hloc)).2
  have hperm := htree.dedup_textPlaces hfiles
  have hsummary := files_summary htree hfiles hresults
  refine ⟨htimes, ?_, ?_, ?_⟩
  · intro r hr r' hr' heq
    rw [hresults] at hr hr'
    obtain ⟨p, hp, rfl⟩ := List.mem_map.1 hr
    obtain ⟨q, hq, rfl⟩ := List.mem_map.1 hr'
    obtain ⟨loc, hloc, hdialect⟩ := htree.exists_place_of_mem_collect hfiles hp
    obtain ⟨-, -, hdialect'⟩ := htree.exists_place_of_mem_collect hfiles hq
    exact Workspace.toOption_lintFile_eq heq hloc hdialect hdialect'
  · calc run.summary.files
        = (((ws.textPlaces files).dedup).map fun loc => (ws.textPlaces files).count loc).sum := by
          rw [hsummary, ← List.sum_map_count_dedup_eq_length]
          congr!
      _ = ((ws.lintable s.paths).map fun loc => (ws.textPlaces files).count loc).sum :=
          (hperm.map _).sum_eq
      _ = ((ws.lintable s.paths).map fun loc => (ws.spellings s.paths loc).length).sum := by
          rw [List.map_congr_left hcount]
  · -- Dropping repeated places keeps their number if there are none.
    have hnodup : (ws.textPlaces files).Nodup ↔
        (ws.textPlaces files).length = (ws.lintable s.paths).length := by
      rw [← hperm.length_eq, ← List.dedup_eq_self]
      exact ⟨fun h => by rw [h], fun h => (List.dedup_sublist _).eq_of_length h.symm⟩
    rw [hsummary, ← hnodup, List.nodup_iff_count_le_one]
    constructor
    · intro hle loc hloc
      rw [htimes, ← hcount loc hloc]
      exact hle loc
    · intro hle loc
      by_cases hloc : loc ∈ ws.lintable s.paths
      · rw [hcount loc hloc, ← htimes]
        exact hle loc hloc
      · rw [List.count_eq_zero_of_not_mem]
        · omega
        · rwa [← List.mem_dedup, hperm.mem_iff]

end Command

/-! ## A directory inside another one -/

namespace Nested

theorem isTree_workspace : workspace.IsTree where
  isEntryName := by decide
  hasDirectory_eq_false := by decide

/-- A directory together with the one that it is in. -/
def overlapping : Command.Selection where
  paths := [⟨"."⟩, ⟨"src"⟩]
  lines? := some 1

theorem expand_overlapping : overlapping.paths.flatMap workspace.expand =
    [⟨"./src/a.ts"⟩, ⟨"./src/b.ts"⟩, ⟨"src/a.ts"⟩, ⟨"src/b.ts"⟩] := by decide

theorem files_overlapping : overlapping.files workspace =
    .ok [⟨"./src/a.ts"⟩, ⟨"./src/b.ts"⟩, ⟨"src/a.ts"⟩, ⟨"src/b.ts"⟩] := by
  have hfault : overlapping.paths.findSome? workspace.collectFault? = none := by decide
  have hsort : [⟨"./src/a.ts"⟩, ⟨"./src/b.ts"⟩, ⟨"src/a.ts"⟩, ⟨"src/b.ts"⟩].mergeSort
      (fun p q : Path => p.compare q != .gt) =
        [⟨"./src/a.ts"⟩, ⟨"./src/b.ts"⟩, ⟨"src/a.ts"⟩, ⟨"src/b.ts"⟩] :=
    List.mergeSort_of_pairwise (by decide)
  simp only [Command.Selection.files, Workspace.collect, hfault, expand_overlapping, hsort]
  decide

theorem lintable_overlapping :
    workspace.lintable overlapping.paths = ([["src", "a.ts"]] : List Location) := by
  have hplaces : [⟨"./src/a.ts"⟩, ⟨"./src/b.ts"⟩, ⟨"src/a.ts"⟩, ⟨"src/b.ts"⟩].filterMap
      workspace.place? =
        ([["src", "a.ts"], ["src", "b.ts"], ["src", "a.ts"], ["src", "b.ts"]] : List Location) := by
    decide
  have htext : workspace.holdsText ["src", "a.ts"] = true := by
    have hdecode : Utf8.decode (Utf8.encode source) = .ok source := Utf8.decode_eq_ok_iff.2 rfl
    have hcontent : workspace.content? ["src", "a.ts"] = some (Utf8.encode source) := rfl
    rw [Workspace.holdsText, hcontent, Option.any_some, hdecode]
    rfl
  have hnoText : workspace.holdsText ["src", "b.ts"] = false := by decide
  rw [Workspace.lintable, expand_overlapping, hplaces]
  simp [htext, hnoText]

end Nested

/-- The one file of the workspace that holds text is checked and counted twice. -/
theorem Command.check_nested_twice :
    Nested.workspace.IsTree ∧
      ∃ run, check (.ofLetters Nested.letters Nested.tree) Nested.overlapping Nested.workspace =
          .ok (some run) ∧
        run.times Nested.workspace ["src", "a.ts"] = 2 ∧ run.summary.files = 2 ∧
        Nested.workspace.lintable Nested.overlapping.paths =
          ([["src", "a.ts"]] : List Location) := by
  have hrule : Nested.overlapping.rule? Nested.workspace = .ok (some ⟨.exactly 1, .error⟩) := rfl
  have hrun : ∃ run, check (.ofLetters Nested.letters Nested.tree) Nested.overlapping
      Nested.workspace = .ok (some run) := by
    simp only [check, Selection.target?, hrule, Nested.files_overlapping, bind, Except.bind, pure,
      Except.pure]
    exact ⟨_, rfl⟩
  obtain ⟨run, hrun⟩ := hrun
  obtain ⟨htimes, -, hfiles, -⟩ := check_once_for_each_spelling Nested.isTree_workspace hrun
  have htwo : (Nested.workspace.spellings Nested.overlapping.paths ["src", "a.ts"]).length = 2 := by
    rw [Workspace.spellings, Nested.expand_overlapping]
    decide
  refine ⟨Nested.isTree_workspace, run, hrun, (htimes _).trans htwo, ?_,
    Nested.lintable_overlapping⟩
  rw [hfiles, Nested.lintable_overlapping, List.map_singleton, List.sum_singleton, htwo]

end ClassSpacing
