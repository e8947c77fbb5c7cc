import ClassSpacing.Proofs.Workspace.Below
import ClassSpacing.Proofs.Workspace.Collect

/-!
# Which files are collected

`Workspace.Reaches` says which source files a path stands for: the one that it leads to, or those
below the directory that it leads to, by way of directories that are not left out. It asks only
where paths lead and what names look like. A file is collected exactly if one of the given paths
reaches it; of the paths to it that have the same components one is kept. Nothing is collected if a
path is missing or leads to a directory that cannot be walked through, `collectFault?_spec`.

A hidden directory ought to be left out, and is if its name is a text. A name of other bytes is
overlooked, so the files below such a directory are collected too: `Workspace.reaches_isHidden_iff`.
-/

namespace ClassSpacing

namespace Workspace

variable {ws : Workspace} {p q : Path} {loc : Location} {names : List RawText} {name : RawText}

/-! ## Directories that are left out -/

/-- A directory that ought to be left out: one of installed packages, or a hidden one. -/
def IsHidden (name : RawText) : Prop :=
  name = "node_modules" ∨ name.bytes.head? = some Path.dot

/-- A directory that is left out: it ought to be, and its name is a text. -/
def IsLeftOut (name : RawText) : Prop :=
  IsHidden name ∧ name.text? ≠ none

theorem isSkippedName_eq_true_iff : isSkippedName name = true ↔ IsLeftOut name := by
  unfold isSkippedName IsLeftOut IsHidden
  cases htext : name.text? with
  | none => simp
  | some s =>
    obtain rfl := RawText.text?_eq_some_iff.1 htext
    simp [RawText.head?_bytes_eq_dot_iff, RawText.ofString_inj]

theorem any_isSkippedName_eq_false_iff :
    names.any isSkippedName = false ↔ ∀ n ∈ names, ¬IsLeftOut n := by
  simp only [List.any_eq_false, isSkippedName_eq_true_iff]

/-! ## What a path stands for -/

/-- A path stands for a path to a source file, where some directories are left out. -/
inductive Reaches (ws : Workspace) (leftOut : RawText → Prop) (p : Path) : Path → Prop
  /-- It leads to the source file itself. -/
  | itself {name : RawText} (hfile : ws.isFile p = true) (hname : p.fileName? = some name)
      (hsource : IsSourceName name) : Reaches ws leftOut p p
  /-- It leads to a directory, and the names of directories that are not left out and the name of a
      source file lead on from there to a file. -/
  | below {directories : List RawText} {name : RawText} (hdirectory : ws.kind? p = some .directory)
      (hnames : ∀ n ∈ directories ++ [name], IsEntryName n)
      (hfile : ws.isFile (descend p (directories ++ [name])) = true)
      (hkept : ∀ d ∈ directories, ¬leftOut d)
      (hsource : IsSourceName name) : Reaches ws leftOut p (descend p (directories ++ [name]))

/-- A path is below another one, and on the way is a hidden directory whose name is no text. -/
def IsOverlooked (p q : Path) : Prop :=
  ∃ names, (∀ n ∈ names, IsEntryName n) ∧ q = descend p names ∧
    ∃ d ∈ names.dropLast, IsHidden d ∧ d.text? = none

theorem exists_locate_of_kind? {kind : EntryKind} (h : ws.kind? p = some kind) :
    ∃ loc, ws.locate p = .ok loc := by
  unfold kind? at h
  split at h
  · next loc hloc => exact ⟨loc, hloc⟩
  · cases h

/-- Of what is reached, only what is below an overlooked directory ought not to be. -/
theorem reaches_isHidden_iff :
    ws.Reaches IsHidden p q ↔ ws.Reaches IsLeftOut p q ∧ ¬IsOverlooked p q := by
  constructor
  · intro h
    cases h with
    | itself hfile hname hsource =>
      refine ⟨.itself hfile hname hsource, ?_⟩
      rintro ⟨names, hnames, hself, d, hd, -⟩
      obtain ⟨loc, hloc, -⟩ := isFile_eq_true_iff.1 hfile
      have hnil : [] = names := descend_inj (bytes_ne_nil_of_locate hloc) (by simp) hnames hself
      simp [← hnil] at hd
    | @below directories name hdirectory hnames hfile hkept hsource =>
      refine ⟨.below hdirectory hnames hfile (fun d hd h => hkept d hd h.1) hsource, ?_⟩
      rintro ⟨names', hnames', hsame, d, hd, hhidden, -⟩
      obtain ⟨loc, hloc⟩ := exists_locate_of_kind? hdirectory
      obtain rfl := descend_inj (bytes_ne_nil_of_locate hloc) hnames hnames' hsame
      rw [List.dropLast_concat] at hd
      exact hkept d hd hhidden
  · rintro ⟨h, hoverlooked⟩
    cases h with
    | itself hfile hname hsource => exact .itself hfile hname hsource
    | @below directories name hdirectory hnames hfile hkept hsource =>
      refine .below hdirectory hnames hfile (fun d hd hhidden => ?_) hsource
      have htext : d.text? = none := by
        by_contra htext
        exact hkept d hd ⟨hhidden, htext⟩
      exact hoverlooked ⟨_, hnames, rfl, d, by rwa [List.dropLast_concat], hhidden, htext⟩

/-- The sources below a directory are those that its path reaches. -/
theorem IsTree.mem_sourcesBelow_iff (htree : ws.IsTree)
    (hdirectory : ws.kind? p = some .directory) :
    q ∈ ws.sourcesBelow p ↔ ws.Reaches IsLeftOut p q := by
  obtain ⟨loc, hloc⟩ := exists_locate_of_kind? hdirectory
  have hp := bytes_ne_nil_of_locate hloc
  simp only [sourcesBelow, hloc, List.mem_filter, List.mem_map]
  constructor
  · rintro ⟨⟨names, ⟨hbelow, hkept⟩, rfl⟩, hdialect⟩
    obtain ⟨hne, hfile⟩ := mem_namesBelow_iff.1 hbelow
    obtain ⟨directories, name, rfl⟩ := (List.eq_nil_or_concat' names).resolve_left hne
    have hnames : ∀ n ∈ directories ++ [name], IsEntryName n := fun n hn =>
      htree.isEntryName _ hfile n (List.mem_append_right _ hn)
    rw [List.dropLast_concat, Bool.not_eq_true', any_isSkippedName_eq_false_iff] at hkept
    refine .below hdirectory hnames ?_ hkept ?_
    · exact isFile_eq_true_iff.2 ⟨_, locate_descend htree hloc hfile, hfile⟩
    · exact (Path.isSome_ofPath?_iff_isSourceName (fileName?_descend hp hnames)).1 hdialect
  · intro h
    cases h with
    | itself hfile =>
      rw [isFile, hdirectory] at hfile
      cases hfile
    | @below directories name _ hnames hfile hkept hsource =>
      obtain ⟨place, hplace, hmem⟩ := isFile_eq_true_iff.1 hfile
      rw [eq_of_locate_descend hloc hnames hplace] at hmem
      refine ⟨⟨_, ⟨mem_namesBelow_iff.2 ⟨by simp, hmem⟩, ?_⟩, rfl⟩, ?_⟩
      · rwa [List.dropLast_concat, Bool.not_eq_true', any_isSkippedName_eq_false_iff]
      · exact (Path.isSome_ofPath?_iff_isSourceName (fileName?_descend hp hnames)).2 hsource

theorem kind?_eq_directory (hkind : ws.kind? p ≠ none) (hfile : ws.isFile p = false) :
    ws.kind? p = some .directory := by
  rw [isFile] at hfile
  revert hkind hfile
  rcases ws.kind? p with _ | _ | _ <;> simp

/-- A path is expanded to the source files that it reaches. -/
theorem IsTree.mem_expand_iff (htree : ws.IsTree) (hkind : ws.kind? p ≠ none) :
    q ∈ ws.expand p ↔ ws.Reaches IsLeftOut p q := by
  unfold expand
  split
  · next hfile =>
    constructor
    · intro h
      split at h
      · next hdialect =>
        obtain rfl := List.mem_singleton.1 h
        obtain ⟨name, hname⟩ := exists_fileName?_of_ofPath? hdialect
        exact .itself hfile hname ((Path.isSome_ofPath?_iff_isSourceName hname).1 hdialect)
      · cases h
    · intro h
      cases h with
      | itself _ hname hsource =>
        rw [if_pos ((Path.isSome_ofPath?_iff_isSourceName hname).2 hsource)]
        exact List.mem_singleton_self _
      | below hdirectory =>
        rw [isFile, hdirectory] at hfile
        cases hfile
  · next hfile =>
    exact htree.mem_sourcesBelow_iff (kind?_eq_directory hkind (by simpa using hfile))

/-! ## Paths that nothing is collected from -/

/-- A path leads nowhere, or is too long to look where it leads. -/
def IsMissing (ws : Workspace) (p : Path) : Prop :=
  ws.kind? p = none ∨ Path.limit ≤ p.bytes.length

/-- A directory is below the one that a path leads to. It is not left out, and neither is one on the
    way to it. -/
def IsWalked (ws : Workspace) (p directory : Path) : Prop :=
  ∃ loc names, ws.locate p = .ok loc ∧ names ≠ [] ∧ ws.hasDirectory (loc ++ names) = true ∧
    (∀ n ∈ names, ¬IsLeftOut n) ∧ descend p names = directory

/-- A path leads to a directory, and the path of one that is walked through from there is too
    long. -/
def IsUnlisted (ws : Workspace) (p : Path) : Prop :=
  ¬ws.IsMissing p ∧ ws.kind? p = some .directory ∧
    ∃ directory, ws.IsWalked p directory ∧ Path.limit ≤ directory.bytes.length

theorem pathExists_eq_false_iff : ws.pathExists p = false ↔ ws.IsMissing p := by
  rw [pathExists, IsMissing, Bool.and_eq_false_iff, decide_eq_false_iff_not, Nat.not_lt,
    Option.isSome_eq_false_iff, Option.isNone_iff_eq_none, or_comm]

theorem prefix_dropLast_iff {file : Location} (hne : loc ≠ []) :
    loc <+: file.dropLast ↔ loc <+: file ∧ loc ≠ file := by
  constructor
  · intro h
    refine ⟨h.trans (List.dropLast_prefix file), ?_⟩
    rintro rfl
    have hle := h.length_le
    rw [List.length_dropLast] at hle
    have hpos := List.length_pos_iff.2 hne
    omega
  · rintro ⟨⟨tail, rfl⟩, hfile⟩
    rw [List.dropLast_append_of_ne_nil (by simpa using hfile)]
    exact List.prefix_append loc _

/-- A directory is there on its own or on the way to another entry. -/
theorem mem_directoryLocations_iff (hne : loc ≠ []) :
    loc ∈ ws.directoryLocations ↔ ws.hasDirectory loc = true := by
  have htake : ∀ l : Location, loc ∈ (List.range (l.length + 1)).map l.take ↔ loc <+: l := by
    intro l
    rw [List.mem_map]
    constructor
    · rintro ⟨count, -, rfl⟩
      exact List.take_prefix count l
    · intro h
      exact ⟨loc.length, List.mem_range.2 (Nat.lt_succ_of_le h.length_le),
        (List.prefix_iff_eq_take.1 h).symm⟩
  simp only [directoryLocations, List.mem_flatMap, htake, List.mem_append, List.mem_map, or_and_right,
    exists_or, hasDirectory, Bool.or_eq_true, List.any_eq_true, List.isPrefixOf_iff_prefix,
    Bool.and_eq_true, bne_iff_ne, List.isEmpty_iff, hne, false_or]
  refine or_congr_right ⟨?_, ?_⟩
  · rintro ⟨_, ⟨_, ⟨entry, hentry, rfl⟩, rfl⟩, hprefix⟩
    exact ⟨entry, hentry, (prefix_dropLast_iff hne).1 hprefix⟩
  · rintro ⟨entry, hentry, hprefix⟩
    exact ⟨_, ⟨_, ⟨entry, hentry, rfl⟩, rfl⟩, (prefix_dropLast_iff hne).2 hprefix⟩

/-- A directory that cannot be listed is one that is walked through and has a path too long. -/
theorem unlisted?_spec (ws : Workspace) (p : Path) :
    (∀ directory, ws.unlisted? p = some directory →
      ws.IsWalked p directory ∧ Path.limit ≤ directory.bytes.length) ∧
    (ws.unlisted? p = none →
      ∀ directory, ws.IsWalked p directory → directory.bytes.length < Path.limit) := by
  unfold unlisted? IsWalked
  cases hloc : ws.locate p with
  | error fault => simp
  | ok loc =>
    have hmem : ∀ directory, directory ∈ ((namesBelow loc ws.directoryLocations).filter
        fun names => !names.any isSkippedName).map (descend p) ↔
        ∃ names, names ≠ [] ∧ ws.hasDirectory (loc ++ names) = true ∧ (∀ n ∈ names, ¬IsLeftOut n) ∧
          descend p names = directory := by
      intro directory
      simp only [List.mem_map, List.mem_filter, mem_namesBelow_iff, Bool.not_eq_true',
        any_isSkippedName_eq_false_iff, and_assoc]
      refine exists_congr fun names => and_congr_right fun hne => ?_
      rw [mem_directoryLocations_iff (by simp [hne])]
    refine ⟨fun directory h => ?_, fun h directory => ?_⟩
    · obtain ⟨names, hnames⟩ := (hmem directory).1 (List.mem_of_find?_eq_some h)
      exact ⟨⟨loc, names, rfl, hnames⟩, by simpa using List.find?_some h⟩
    · rintro ⟨_, names, hsame, hnames⟩
      obtain rfl := Except.ok.inj hsame
      simpa using List.find?_eq_none.1 h directory ((hmem directory).2 ⟨names, hnames⟩)

/-- What is wrong with a path for which files cannot be collected. -/
theorem collectFault?_spec (ws : Workspace) (p : Path) :
    match ws.collectFault? p with
    | none => ¬ws.IsMissing p ∧ ¬ws.IsUnlisted p
    | some (.missing q) => q = p ∧ ws.IsMissing p
    | some (.unlisted q directory) => q = p ∧ ws.IsUnlisted p ∧ ws.IsWalked p directory ∧
        Path.limit ≤ directory.bytes.length := by
  obtain ⟨hsome, hnone⟩ := unlisted?_spec ws p
  unfold collectFault?
  cases hexists : ws.pathExists p with
  | false => exact ⟨rfl, pathExists_eq_false_iff.1 hexists⟩
  | true =>
    have hmissing : ¬ws.IsMissing p := by
      rw [← pathExists_eq_false_iff, hexists]
      decide
    cases hfile : ws.isFile p with
    | true =>
      refine ⟨hmissing, ?_⟩
      rintro ⟨-, hdirectory, -⟩
      rw [isFile, hdirectory] at hfile
      cases hfile
    | false =>
      have hdirectory := kind?_eq_directory (fun h => hmissing (.inl h)) hfile
      cases hunlisted : ws.unlisted? p with
      | none =>
        refine ⟨hmissing, ?_⟩
        rintro ⟨-, -, directory, hwalked, hlong⟩
        exact absurd (hnone hunlisted directory hwalked) (Nat.not_lt.2 hlong)
      | some directory =>
        obtain ⟨hwalked, hlong⟩ := hsome directory hunlisted
        exact ⟨rfl, ⟨hmissing, hdirectory, directory, hwalked, hlong⟩, hwalked, hlong⟩

theorem collectFault?_eq_none_iff :
    ws.collectFault? p = none ↔ ¬ws.IsMissing p ∧ ¬ws.IsUnlisted p := by
  have hspec := collectFault?_spec ws p
  split at hspec
  · next hnone => exact iff_of_true hnone hspec
  · next hsome => simp [hsome, hspec.2]
  · next hsome => simp [hsome, hspec.2.1]

theorem collectFault?_eq_missing_iff :
    ws.collectFault? p = some (.missing q) ↔ q = p ∧ ws.IsMissing p := by
  have hspec := collectFault?_spec ws p
  split at hspec
  · next hnone => simp [hnone, hspec.1]
  · next hsome => simp [hsome, hspec.1, hspec.2, eq_comm]
  · next hsome => simp [hsome, hspec.2.1.1]

/-! ## All given paths -/

variable {paths files : List Path} {fault : CollectFault}

/-- What is complained about is the first path for which files cannot be collected. -/
theorem collect_eq_error_iff :
    ws.collect paths = .error fault ↔ ∃ before p after, paths = before ++ p :: after ∧
      ws.collectFault? p = some fault ∧ ∀ q ∈ before, ws.collectFault? q = none := by
  rw [← List.findSome?_eq_some_iff, collect]
  cases paths.findSome? ws.collectFault? <;> simp

/-- In a directory tree, collecting files fails exactly if one of the paths leads nowhere or is too
    long, or leads to a directory below which one that is walked through has a path too long to list
    it. The first of these paths is complained about. Otherwise the collected files are in strictly
    increasing order, each of them is reached by one of the paths, and every path that is reached
    has the components of one of them. What would be reached if all hidden directories were left out
    is all of this, except for what is below a hidden directory whose name is no text. -/
theorem collect_reaches (htree : ws.IsTree) (paths : List Path) :
    ((∃ fault, ws.collect paths = .error fault) ↔
      ∃ p ∈ paths, ws.IsMissing p ∨ ws.IsUnlisted p) ∧
    (∀ p, ws.collect paths = .error (.missing p) ↔ ∃ before after, paths = before ++ p :: after ∧
      ws.IsMissing p ∧ ∀ q ∈ before, ¬ws.IsMissing q ∧ ¬ws.IsUnlisted q) ∧
    (∀ p directory, ws.collect paths = .error (.unlisted p directory) →
      ws.IsWalked p directory ∧ Path.limit ≤ directory.bytes.length ∧
      ∃ before after, paths = before ++ p :: after ∧
        ws.IsUnlisted p ∧ ∀ q ∈ before, ¬ws.IsMissing q ∧ ¬ws.IsUnlisted q) ∧
    (∀ files, ws.collect paths = .ok files →
      files.Pairwise (fun p q => p.compare q = .lt) ∧
      (∀ q ∈ files, ∃ p ∈ paths, ws.Reaches IsLeftOut p q) ∧
      ∀ q : Path, (∃ file ∈ files, file.components = q.components) ↔
        ∃ p ∈ paths, ∃ r, ws.Reaches IsLeftOut p r ∧ r.components = q.components) ∧
    ∀ p q, ws.Reaches IsHidden p q ↔ ws.Reaches IsLeftOut p q ∧ ¬IsOverlooked p q := by
  refine ⟨?_, ?_, ?_, ?_, fun p q => reaches_isHidden_iff⟩
  · have hfails : (∃ fault, ws.collect paths = .error fault) ↔
        ¬∀ p ∈ paths, ws.collectFault? p = none := by
      rw [← List.findSome?_eq_none_iff, collect]
      cases paths.findSome? ws.collectFault? <;> simp
    simp only [hfails, collectFault?_eq_none_iff, not_forall, exists_prop]
    exact exists_congr fun p => and_congr_right fun _ => by rw [← not_or, not_not]
  · intro p
    simp only [collect_eq_error_iff, collectFault?_eq_missing_iff, collectFault?_eq_none_iff]
    constructor
    · rintro ⟨before, _, after, hpaths, ⟨rfl, hp⟩, hbefore⟩
      exact ⟨before, after, hpaths, hp, hbefore⟩
    · rintro ⟨before, after, hpaths, hp, hbefore⟩
      exact ⟨before, p, after, hpaths, ⟨rfl, hp⟩, hbefore⟩
  · intro p directory h
    obtain ⟨before, first, after, hpaths, hfault, hbefore⟩ := collect_eq_error_iff.1 h
    have hspec := collectFault?_spec ws first
    rw [hfault] at hspec
    obtain ⟨rfl, hunlisted, hwalked, hlong⟩ := hspec
    exact ⟨hwalked, hlong, before, after, hpaths, hunlisted, fun q hq =>
      collectFault?_eq_none_iff.1 (hbefore q hq)⟩
  · intro files h
    have hkind : ∀ p ∈ paths, ws.kind? p ≠ none := fun p hp hnone =>
      (collectFault?_eq_none_iff.1 ((collect_eq_ok_iff.1 h).1 p hp)).1 (.inl hnone)
    have hreached : ∀ q ∈ files, ∃ p ∈ paths, ws.Reaches IsLeftOut p q := by
      intro q hq
      obtain ⟨p, hp, hexpand⟩ := List.mem_flatMap.1 (mem_expand_of_mem_collect h hq)
      exact ⟨p, hp, (htree.mem_expand_iff (hkind p hp)).1 hexpand⟩
    refine ⟨pairwise_collect h, hreached, fun q => ⟨?_, ?_⟩⟩
    · rintro ⟨file, hfile, heq⟩
      obtain ⟨p, hp, hreaches⟩ := hreached file hfile
      exact ⟨p, hp, file, hreaches, heq⟩
    · rintro ⟨p, hp, r, hreaches, heq⟩
      have hexpand := (htree.mem_expand_iff (hkind p hp)).2 hreaches
      obtain ⟨file, hfile, hsame⟩ := exists_mem_collect h (List.mem_flatMap.2 ⟨p, hp, hexpand⟩)
      exact ⟨file, hfile, hsame.trans heq⟩

end Workspace

/-! ## Directories that are hidden, and paths that are long -/

namespace Hidden

/-- The name of a hidden directory that is no text. -/
def rawName : RawText :=
  ⟨[0x2E, 0xFF]⟩

/-- A hidden file and a plain one, two directories that are left out, and one that is overlooked. -/
def workspace : Workspace where
  files := [(["src", ".git", "c.ts"], []), (["src", ".zz.ts"], []), (["src", rawName, "b.ts"], []),
    (["src", "a.ts"], []), (["src", "node_modules", "m.ts"], [])]

/-- The file in the directory that is overlooked. -/
def overlooked : Path :=
  Workspace.descend ⟨"src"⟩ [rawName, "b.ts"]

/-- The current directory, with steps from it to itself on the way. -/
def detour : Nat → Path
  | 0 => ⟨⟨[Path.dot]⟩⟩
  | steps + 1 => ⟨⟨Path.dot :: Path.slash :: (detour steps).bytes⟩⟩

theorem isTree_workspace : workspace.IsTree where
  isEntryName := by decide
  hasDirectory_eq_false := by decide +kernel

theorem collect_named : workspace.collect [⟨"src/.git"⟩, ⟨"src"⟩] =
    .ok [⟨"src/.git/c.ts"⟩, ⟨"src/.zz.ts"⟩, overlooked, ⟨"src/a.ts"⟩] := by
  have hfault : [⟨"src/.git"⟩, ⟨"src"⟩].findSome? workspace.collectFault? = none := by
    decide +kernel
  have hexpand : [⟨"src/.git"⟩, ⟨"src"⟩].flatMap workspace.expand =
      [⟨"src/.git/c.ts"⟩, ⟨"src/.zz.ts"⟩, overlooked, ⟨"src/a.ts"⟩] := by decide +kernel
  have hsort : [⟨"src/.git/c.ts"⟩, ⟨"src/.zz.ts"⟩, overlooked, ⟨"src/a.ts"⟩].mergeSort
      (fun p q : Path => p.compare q != .gt) =
        [⟨"src/.git/c.ts"⟩, ⟨"src/.zz.ts"⟩, overlooked, ⟨"src/a.ts"⟩] :=
    List.mergeSort_of_pairwise (by decide +kernel)
  rw [Workspace.collect, hfault, hexpand, hsort]
  decide +kernel

theorem length_detour (steps : Nat) : (detour steps).bytes.length = 2 * steps + 1 := by
  induction steps with
  | zero => rfl
  | succ steps ih =>
    simp only [detour, Path.bytes_mk, List.length_cons, ih]
    omega

theorem wordsOf_detour (steps : Nat) :
    Workspace.wordsOf (detour steps) = List.replicate (steps + 1) ⟨[Path.dot]⟩ := by
  induction steps with
  | zero => rfl
  | succ steps ih =>
    have happend := Workspace.map_fst_words_append 0 [] [Path.dot] (detour steps).bytes
    rw [← Workspace.wordsOf, ih] at happend
    exact happend

/-- However long it is, it leads nowhere else. -/
theorem locate_detour (steps : Nat) : workspace.locate (detour steps) = .ok [] := by
  have hsteps : ∀ count,
      (List.replicate count ⟨[Path.dot]⟩).foldlM workspace.step [] = .ok [] := by
    intro count
    induction count with
    | zero => rfl
    | succ count ih => exact ih
  have hne : (detour steps).bytes.isEmpty = false := by cases steps <;> rfl
  have hstart : workspace.startOf (detour steps) = [] := by cases steps <;> rfl
  rw [Workspace.locate, hne, wordsOf_detour, hstart]
  exact hsteps _

theorem kind?_detour (steps : Nat) : workspace.kind? (detour steps) = some .directory := by
  rw [Workspace.kind?, locate_detour]
  decide

theorem isMissing_detour_iff (steps : Nat) : workspace.IsMissing (detour steps) ↔ 2048 ≤ steps := by
  rw [Workspace.IsMissing, kind?_detour, length_detour, Path.limit]
  simp only [reduceCtorEq, false_or]
  omega

/-- The longest detours can still be followed, but the path of a directory behind them is too
    long. -/
theorem isUnlisted_detour {steps : Nat} (hlong : 2046 ≤ steps) (hshort : steps < 2048) :
    workspace.IsUnlisted (detour steps) := by
  have hname : Workspace.IsEntryName "src" := by decide
  have hwalked : workspace.IsWalked (detour steps) (Workspace.descend (detour steps) ["src"]) := by
    refine ⟨[], ["src"], locate_detour steps, by simp, by decide, ?_, rfl⟩
    rw [← Workspace.any_isSkippedName_eq_false_iff]
    decide +kernel
  have hmissing : ¬workspace.IsMissing (detour steps) := by
    rw [isMissing_detour_iff]
    omega
  refine ⟨hmissing, kind?_detour steps, _, hwalked, ?_⟩
  calc Path.limit ≤ (detour steps).bytes.length + ("src" : RawText).bytes.length := by
        rw [length_detour]
        have hsrc : ("src" : RawText).bytes.length = 3 := by decide
        simp only [Path.limit, hsrc]
        omega
    _ ≤ (Path.join (detour steps) ⟨"src"⟩).bytes.length :=
        Path.length_le_length_join (Workspace.bytes_ne_nil_of_locate (locate_detour steps)) hname

end Hidden

/-- The hidden directory is reached because it is named itself, the one of installed packages is not
    reached, and what is below the overlooked one is. Of two paths that lead nowhere the first one
    is complained about, and so is one that leads to a directory and is too long. A path that is
    nearly as long is not missing, but cannot be walked through. -/
theorem Workspace.collect_reaches_hidden :
    (∃ p ∈ [⟨"src/.git"⟩, ⟨"src"⟩], Hidden.workspace.Reaches IsLeftOut p ⟨"src/.git/c.ts"⟩) ∧
    (∃ p ∈ [⟨"src/.git"⟩, ⟨"src"⟩], Hidden.workspace.Reaches IsLeftOut p ⟨"src/.zz.ts"⟩) ∧
    (¬∃ p ∈ [⟨"src/.git"⟩, ⟨"src"⟩],
      Hidden.workspace.Reaches IsLeftOut p ⟨"src/node_modules/m.ts"⟩) ∧
    (∃ p ∈ [⟨"src/.git"⟩, ⟨"src"⟩], Hidden.workspace.Reaches IsLeftOut p Hidden.overlooked) ∧
    ¬Hidden.workspace.Reaches IsHidden ⟨"src"⟩ Hidden.overlooked ∧
    Hidden.workspace.collect [⟨"gone"⟩, ⟨"lost"⟩] = .error (.missing ⟨"gone"⟩) ∧
    Hidden.workspace.kind? (Hidden.detour 2048) = some .directory ∧
    Hidden.workspace.collect [Hidden.detour 2048] = .error (.missing (Hidden.detour 2048)) ∧
    ¬Hidden.workspace.IsMissing (Hidden.detour 2047) ∧
    ∃ fault, Hidden.workspace.collect [Hidden.detour 2047] = .error fault := by
  obtain ⟨-, -, -, hnamed, hhidden⟩ :=
    collect_reaches Hidden.isTree_workspace [⟨"src/.git"⟩, ⟨"src"⟩]
  obtain ⟨-, hmem, hreached⟩ := hnamed _ Hidden.collect_named
  obtain ⟨-, hfirst, -⟩ := collect_reaches Hidden.isTree_workspace [⟨"gone"⟩, ⟨"lost"⟩]
  obtain ⟨-, hlong, -⟩ := collect_reaches Hidden.isTree_workspace [Hidden.detour 2048]
  obtain ⟨hfails, -⟩ := collect_reaches Hidden.isTree_workspace [Hidden.detour 2047]
  have hunlisted : Hidden.workspace.IsUnlisted (Hidden.detour 2047) :=
    Hidden.isUnlisted_detour (by omega) (by omega)
  refine ⟨hmem _ (by decide +kernel), hmem _ (by decide +kernel), ?_, hmem _ (by decide +kernel),
    ?_, ?_, Hidden.kind?_detour 2048, ?_, hunlisted.1, ?_⟩
  · rintro ⟨p, hp, h⟩
    have hcollected := (hreached _).2 ⟨p, hp, _, h, rfl⟩
    revert hcollected
    decide +kernel
  · intro h
    refine ((hhidden _ _).1 h).2 ⟨[Hidden.rawName, "b.ts"], by decide, rfl, Hidden.rawName, ?_⟩
    exact ⟨by simp, .inr rfl, by decide⟩
  · exact (hfirst _).2 ⟨[], [⟨"lost"⟩], rfl, .inl (by decide +kernel), by simp⟩
  · have hmissing := (Hidden.isMissing_detour_iff 2048).2 (Nat.le_refl _)
    exact (hlong _).2 ⟨[], [], rfl, hmissing, by simp⟩
  · exact hfails.2 ⟨_, List.mem_singleton_self _, .inr hunlisted⟩

end ClassSpacing
