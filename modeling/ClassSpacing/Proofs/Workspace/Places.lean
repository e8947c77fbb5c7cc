import ClassSpacing.Proofs.Workspace.Layout
import ClassSpacing.Workspace.Collect

/-!
# Places of paths

A path that leads anywhere leads to a place that its components determine, `locate_eq_move`. In a
workspace that is a directory tree, a path that another one is expanded to always leads to a file,
`exists_file_of_mem_expand`. The same file can still be reached by paths with other components.
-/

namespace ClassSpacing

variable {ws : Workspace} {p q : Path} {loc : Location} {name : RawText}

/-! ## Places and components -/

/-- Where a component leads. -/
def Path.Component.move (loc : Location) : Component → Location
  | .root => []
  | .current => loc
  | .parent => loc.dropLast
  | .name name => loc ++ [name]

namespace Workspace

theorem move_eq_component (loc : Location) (word : RawText) :
    move loc word = ((Path.Component.ofWord? word).map (·.move loc)).getD loc := by
  unfold move Path.Component.ofWord?
  split
  · rfl
  · split <;> rfl

/-- Words that are no components lead nowhere else. -/
theorem foldl_move_eq (wordList : List (RawText × Nat)) (loc : Location) :
    (wordList.map (·.1)).foldl move loc =
      ((wordList.filterMap fun (word, stop) => (Path.Component.ofWord? word).map (·, stop)).map
        (·.1)).foldl Path.Component.move loc := by
  induction wordList generalizing loc with
  | nil => rfl
  | cons entry rest ih =>
    obtain ⟨word, stop⟩ := entry
    rw [List.map_cons, List.foldl_cons, ih, move_eq_component]
    cases hword : Path.Component.ofWord? word <;> simp [hword]

theorem step_eq_ok_iff {word : RawText} {next : Location} :
    ws.step loc word = .ok next ↔ ws.kindAt? loc = some .directory ∧ next = move loc word := by
  unfold step
  rcases ws.kindAt? loc with _ | _ | _ <;> simp [eq_comm]

/-- Steps that all succeed move from word to word. -/
theorem foldlM_step_eq_ok {wordList : List RawText} {start : Location}
    (h : wordList.foldlM ws.step start = .ok loc) : loc = wordList.foldl move start := by
  induction wordList generalizing start with
  | nil => exact (Except.ok.inj h).symm
  | cons word rest ih =>
    rw [List.foldlM_cons] at h
    obtain ⟨next, hstep, hrest⟩ := Except.bind_eq_ok_iff.1 h
    rw [(step_eq_ok_iff.1 hstep).2] at hrest
    exact ih hrest

/-- A path starts at the root or here, and a dot at its beginning leads nowhere. -/
theorem foldl_components (ws : Workspace) (p : Path) :
    p.components.foldl Path.Component.move ws.current = (wordsOf p).foldl move (ws.startOf p) := by
  rw [wordsOf, foldl_move_eq, Path.components, Path.placedComponents]
  split
  · next rest hbytes =>
    simp [startOf, Path.isAbsolute, Path.slash, hbytes, Path.Component.move]
  · next hbytes =>
    have hdot : Path.Component.ofWord? ⟨[0x2E]⟩ = none := by decide
    simp [startOf, Path.isAbsolute, Path.slash, hbytes, Path.words, hdot, Path.Component.move]
  · next rest hbytes =>
    simp [startOf, Path.isAbsolute, Path.slash, hbytes, Path.Component.move]
  · next hroot _ _ =>
    have hrelative : p.isAbsolute = false := by
      rw [Path.isAbsolute, beq_eq_false_iff_ne]
      intro hhead
      obtain ⟨rest, hrest⟩ := List.head?_eq_some_iff.1 hhead
      exact hroot rest hrest
    simp [startOf, hrelative]

/-- The place of a path depends on its components only. -/
theorem locate_eq_move (h : ws.locate p = .ok loc) :
    loc = p.components.foldl Path.Component.move ws.current := by
  unfold locate at h
  split at h
  · cases h
  · rw [foldlM_step_eq_ok h, foldl_components]

/-! ## Places below a directory -/

/-- A name that an entry of a directory can have. -/
structure IsEntryName (name : RawText) : Prop where
  ne_empty : name ≠ ""
  ne_current : name ≠ "."
  ne_parent : name ≠ ".."
  slash_notMem : Path.slash ∉ name.bytes

theorem isEntryName_iff {name : RawText} : IsEntryName name ↔
    name ≠ "" ∧ name ≠ "." ∧ name ≠ ".." ∧ Path.slash ∉ name.bytes := by
  constructor
  · rintro ⟨hempty, hcurrent, hparent, hslash⟩
    exact ⟨hempty, hcurrent, hparent, hslash⟩
  · rintro ⟨hempty, hcurrent, hparent, hslash⟩
    exact ⟨hempty, hcurrent, hparent, hslash⟩

instance (name : RawText) : Decidable (IsEntryName name) :=
  decidable_of_iff _ isEntryName_iff.symm

/-- Files have names that can be written between slashes, and none of them is a directory too. -/
structure IsTree (ws : Workspace) : Prop where
  isEntryName : ∀ file ∈ ws.files.map (·.1), ∀ name ∈ file, IsEntryName name
  hasDirectory_eq_false : ∀ file ∈ ws.files.map (·.1), ws.hasDirectory file = false

theorem IsEntryName.move_eq (h : IsEntryName name) (loc : Location) :
    move loc name = loc ++ [name] := by
  simp [move, h.ne_empty, h.ne_current, h.ne_parent]

theorem map_fst_words (count count' : Nat) (word bytes : Bytes) :
    (Path.words count word bytes).map (·.1) = (Path.words count' word bytes).map (·.1) := by
  induction bytes generalizing count count' word with
  | nil => rfl
  | cons b rest ih =>
    by_cases hb : b = Path.slash
    · simp [Path.words, hb, ih (count + 1) (count' + 1)]
    · simp [Path.words, hb, ih (count + 1) (count' + 1)]

theorem map_fst_words_of_notMem {bytes : Bytes} (h : Path.slash ∉ bytes) (count : Nat)
    (word : Bytes) :
    (Path.words count word bytes).map (·.1) = [⟨word.reverse ++ bytes⟩] := by
  induction bytes generalizing count word with
  | nil => simp [Path.words]
  | cons b rest ih =>
    rw [List.mem_cons, not_or] at h
    rw [Path.words, if_neg (Ne.symm h.1), ih h.2]
    simp

/-- A slash ends a word. -/
theorem map_fst_words_append (count : Nat) (word bytes bytes' : Bytes) :
    (Path.words count word (bytes ++ Path.slash :: bytes')).map (·.1) =
      (Path.words count word bytes).map (·.1) ++ (Path.words 0 [] bytes').map (·.1) := by
  induction bytes generalizing count word with
  | nil => simp [Path.words, map_fst_words (count + 1) 0]
  | cons b rest ih =>
    by_cases hb : b = Path.slash
    · simp [Path.words, hb, ih]
    · simp [Path.words, hb, ih]

theorem foldlM_step_concat {wordList : List RawText} {start : Location} {word : RawText} :
    (wordList ++ [word]).foldlM ws.step start = .ok loc ↔
      ∃ before, wordList.foldlM ws.step start = .ok before ∧ ws.step before word = .ok loc := by
  rw [List.foldlM_append, Except.bind_eq_ok_iff]
  simp only [List.foldlM_cons, List.foldlM_nil, bind_pure]

/-- What is behind the last slash of a path leads on from what is before it. -/
theorem locate_eq_ok_of_slash (bytes : Bytes) (hname : IsEntryName name)
    (hq : q.bytes = bytes ++ Path.slash :: name.bytes)
    (h : ((Path.words 0 [] bytes).map (·.1)).foldlM ws.step (ws.startOf q) = .ok loc)
    (hkind : ws.kindAt? loc = some .directory) : ws.locate q = .ok (loc ++ [name]) := by
  have hne : q.bytes.isEmpty = false := by simp [hq]
  have hwords : wordsOf q = (Path.words 0 [] bytes).map (·.1) ++ [name] := by
    rw [wordsOf, hq, map_fst_words_append, map_fst_words_of_notMem hname.slash_notMem]
    simp
  rw [locate, hne, hwords]
  exact foldlM_step_concat.2 ⟨loc, h, step_eq_ok_iff.2 ⟨hkind, (hname.move_eq loc).symm⟩⟩

/-- A name below a directory leads to the entry of that name. -/
theorem locate_join (h : ws.locate p = .ok loc) (hkind : ws.kindAt? loc = some .directory)
    (hname : IsEntryName name) : ws.locate (p.join ⟨name⟩) = .ok (loc ++ [name]) := by
  have hrelative : Path.isAbsolute ⟨name⟩ = false := by
    rw [Path.isAbsolute, beq_eq_false_iff_ne]
    exact fun hhead => hname.slash_notMem (List.mem_of_mem_head? hhead)
  unfold locate at h
  split at h
  · cases h
  · next hne =>
    have hbytes : p.bytes ≠ [] := by simpa using hne
    have hstart : ∀ tail, ws.startOf ⟨⟨p.bytes ++ tail⟩⟩ = ws.startOf p := by
      intro tail
      have hsame : Path.isAbsolute ⟨⟨p.bytes ++ tail⟩⟩ = p.isAbsolute := by
        simp [Path.isAbsolute, List.head?_append_of_ne_nil _ hbytes]
      rw [startOf, hsame, startOf]
    by_cases hslash : p.bytes.getLast? = some Path.slash
    · -- The path ends with a slash, and the word behind that leads nowhere else.
      obtain ⟨bytes, hbytes⟩ := List.getLast?_eq_some_iff.1 hslash
      have hwords : wordsOf p = (Path.words 0 [] bytes).map (·.1) ++ [⟨[]⟩] := by
        rw [wordsOf, hbytes, map_fst_words_append]
        rfl
      rw [hwords] at h
      obtain ⟨before, hbefore, hstep⟩ := foldlM_step_concat.1 h
      obtain rfl : loc = before := (step_eq_ok_iff.1 hstep).2
      have hjoin : p.join ⟨name⟩ = ⟨⟨p.bytes ++ name.bytes⟩⟩ := by
        simp [Path.join, hrelative, hne, hslash]
      rw [hjoin]
      refine locate_eq_ok_of_slash bytes hname ?_ (by rwa [hstart]) hkind
      simp [hbytes]
    · have hjoin : p.join ⟨name⟩ = ⟨⟨p.bytes ++ Path.slash :: name.bytes⟩⟩ := by
        simp [Path.join, hrelative, hne, hslash]
      rw [hjoin]
      exact locate_eq_ok_of_slash p.bytes hname rfl (by rwa [hstart]) hkind

/-! ## Files that paths are expanded to -/

/-- A file is no directory. -/
theorem IsTree.kindAt?_eq_directory (htree : ws.IsTree) (h : ws.hasDirectory loc = true) :
    ws.kindAt? loc = some .directory := by
  have hfile : ¬(ws.content? loc).isSome = true := by
    rw [isSome_content?_iff]
    intro hmem
    rw [htree.hasDirectory_eq_false loc hmem] at h
    cases h
  rw [kindAt?, if_neg hfile, if_pos h]

/-- What is on the way to a file is a directory. -/
theorem hasDirectory_of_file {names : List RawText} (hfile : loc ++ names ∈ ws.files.map (·.1))
    (hne : names ≠ []) : ws.hasDirectory loc = true := by
  obtain ⟨entry, hmem, hentry⟩ := List.mem_map.1 hfile
  rw [hasDirectory, Bool.or_eq_true]
  exact .inr (List.any_eq_true.2 ⟨entry, hmem, by simp [hentry, hne]⟩)

/-- The names from a directory down to a file lead there. -/
theorem locate_descend (htree : ws.IsTree) {names : List RawText} (h : ws.locate p = .ok loc)
    (hfile : loc ++ names ∈ ws.files.map (·.1)) :
    ws.locate (descend p names) = .ok (loc ++ names) := by
  induction names generalizing p loc with
  | nil => simpa [descend] using h
  | cons name rest ih =>
    have hdirectory := hasDirectory_of_file hfile (List.cons_ne_nil name rest)
    have hjoin := locate_join h (htree.kindAt?_eq_directory hdirectory)
      (htree.isEntryName _ hfile name (by simp))
    have hrest := ih hjoin (by simpa using hfile)
    simpa [descend] using hrest

theorem isFile_eq_true_iff :
    ws.isFile p = true ↔ ∃ loc, ws.locate p = .ok loc ∧ loc ∈ ws.files.map (·.1) := by
  rw [isFile, kind?, beq_iff_eq]
  cases ws.locate p with
  | error fault => simp
  | ok loc =>
    simp only [Except.ok.injEq, exists_eq_left', kindAt?, isSome_content?_iff]
    by_cases hfile : loc ∈ ws.files.map (·.1)
    · simp [hfile]
    · rw [if_neg hfile, iff_false_right hfile]
      split <;> simp

theorem mem_namesBelow_iff {names : List RawText} {locations : List Location} :
    names ∈ namesBelow loc locations ↔ names ≠ [] ∧ loc ++ names ∈ locations := by
  unfold namesBelow
  constructor
  · intro h
    obtain ⟨l, hmem, hbelow⟩ := List.mem_filterMap.1 h
    split at hbelow
    · next hprefix =>
      rw [Bool.and_eq_true, List.isPrefixOf_iff_prefix, bne_iff_ne] at hprefix
      obtain ⟨⟨tail, rfl⟩, hne⟩ := hprefix
      obtain rfl : tail = names := by simpa using hbelow
      exact ⟨by simpa using hne, hmem⟩
    · cases hbelow
  · rintro ⟨hne, hmem⟩
    exact List.mem_filterMap.2 ⟨_, hmem, by simp [hne]⟩

/-- What a path is expanded to leads to source files. -/
theorem IsTree.isFile_of_mem_expand (htree : ws.IsTree) (h : q ∈ ws.expand p) :
    ws.isFile q = true ∧ (Dialect.ofPath? q).isSome = true := by
  unfold expand at h
  split at h
  · next hfile =>
    split at h
    · next hdialect =>
      rw [List.mem_singleton.1 h]
      exact ⟨hfile, hdialect⟩
    · cases h
  · unfold sourcesBelow at h
    split at h
    · cases h
    · next loc hloc =>
      obtain ⟨hkept, hdialect⟩ := List.mem_filter.1 h
      obtain ⟨names, hnames, rfl⟩ := List.mem_map.1 hkept
      have hplace := (mem_namesBelow_iff.1 (List.mem_filter.1 hnames).1).2
      exact ⟨isFile_eq_true_iff.2 ⟨_, locate_descend htree hloc hplace, hplace⟩, hdialect⟩

/-! ## Source files by their places -/

/-- A path that ends with a name leads to a place of that name. -/
theorem getLast?_of_fileName? (h : ws.locate p = .ok loc) (hname : p.fileName? = some name) :
    loc.getLast? = some name := by
  unfold Path.fileName? at hname
  split at hname
  · next s hlast =>
    obtain ⟨before, hcomponents⟩ := List.getLast?_eq_some_iff.1 hlast
    rw [locate_eq_move h, hcomponents, List.foldl_concat, ← Option.some.inj hname]
    exact List.getLast?_concat
  · cases hname

theorem exists_fileName?_of_ofPath? (h : (Dialect.ofPath? p).isSome = true) :
    ∃ name, p.fileName? = some name := by
  cases hname : p.fileName? with
  | none => simp [Dialect.ofPath?, Path.extension?, hname] at h
  | some name => exact ⟨name, rfl⟩

/-- Two paths of source files that lead to the same place have the same dialect. -/
theorem ofPath?_eq_of_locate (hp : ws.locate p = .ok loc) (hq : ws.locate q = .ok loc)
    (hdialect : (Dialect.ofPath? p).isSome = true) (hdialect' : (Dialect.ofPath? q).isSome = true) :
    Dialect.ofPath? p = Dialect.ofPath? q := by
  obtain ⟨name, hname⟩ := exists_fileName?_of_ofPath? hdialect
  obtain ⟨name', hname'⟩ := exists_fileName?_of_ofPath? hdialect'
  obtain rfl : name = name' := Option.some.inj
    ((getLast?_of_fileName? hp hname).symm.trans (getLast?_of_fileName? hq hname'))
  simp only [Dialect.ofPath?, Path.extension?, hname, hname']

end Workspace

end ClassSpacing
