import ClassSpacing.Proofs.Text.RawText
import ClassSpacing.Proofs.Workspace.Places
import Mathlib.Data.List.TakeWhile

/-!
# Paths below a path

The name of a source file ends with one of a few extensions: `isSome_ofPath?_iff_isSourceName`. Names
behind a path are that many more components, `components_descend`, so different names behind it are
different paths, `descend_inj`.
-/

namespace ClassSpacing

/-! ## Names of source files -/

/-- The extensions of source files. -/
def sourceExtensions : List String :=
  ["ts", "mts", "cts", "tsx", "js", "jsx", "mjs", "cjs"]

/-- A name that ends with a dot and an extension of source files, and has something before that. -/
def IsSourceName (name : RawText) : Prop :=
  ∃ (stem : Bytes) (ext : String), stem ≠ [] ∧ ext ∈ sourceExtensions ∧
    name.bytes = stem ++ Path.dot :: (ext : RawText).bytes

namespace Path

variable {p : Path} {name : RawText}

/-- The extension of a file name is what follows its last dot, which is not its first byte. -/
theorem extension?_eq_some_iff {ext : RawText} (hname : p.fileName? = some name) :
    p.extension? = some ext ↔
      dot ∉ ext.bytes ∧ ∃ stem, stem ≠ [] ∧ name.bytes = stem ++ dot :: ext.bytes := by
  have hsplit : name.bytes.reverse.takeWhile (· != dot) ++
      name.bytes.reverse.dropWhile (· != dot) = name.bytes.reverse :=
    List.takeWhile_append_dropWhile
  simp only [extension?, hname, Option.bind_eq_bind, Option.bind_some]
  constructor
  · intro h
    split at h
    · next b b' stem hdrop =>
      have hdot : b = dot := by
        have hhead := List.head?_dropWhile_not (· != dot) name.bytes.reverse
        simpa [hdrop] using hhead
      obtain rfl := Option.some.inj h
      refine ⟨?_, (b' :: stem).reverse, by simp, ?_⟩
      · intro hmem
        have hne := List.mem_takeWhile_imp (List.mem_reverse.1 hmem)
        simp at hne
      · rw [hdrop, hdot] at hsplit
        have hreverse := congrArg List.reverse hsplit
        simpa using hreverse.symm
    · cases h
  · rintro ⟨hdot, stem, hstem, hlist⟩
    have hreverse : name.bytes.reverse = ext.bytes.reverse ++ dot :: stem.reverse := by
      simp [hlist]
    have hpos : ∀ b ∈ ext.bytes.reverse, (b != dot) = true := by
      intro b hb
      simp only [bne_iff_ne]
      rintro rfl
      exact hdot (List.mem_reverse.1 hb)
    rw [hreverse, List.takeWhile_append_of_pos hpos, List.dropWhile_append_of_pos hpos]
    obtain ⟨b, rest, hcons⟩ := List.exists_cons_of_ne_nil (List.reverse_ne_nil_iff.2 hstem)
    simp [hcons]

theorem isSome_ofPath?_iff :
    (Dialect.ofPath? p).isSome = true ↔
      ∃ ext ∈ sourceExtensions, p.extension? = some (ext : RawText) := by
  unfold Dialect.ofPath?
  cases p.extension? with
  | none => simp
  | some raw =>
    simp only [Option.bind_eq_bind, Option.bind_some, Option.some.injEq, ← RawText.text?_eq_some_iff]
    cases raw.text? with
    | none => simp
    | some ext =>
      simp only [Option.bind_some, Option.some.injEq, exists_eq_right']
      split <;> simp_all [sourceExtensions]

/-- Files are looked at if they have the name of a source file. -/
theorem isSome_ofPath?_iff_isSourceName (hname : p.fileName? = some name) :
    (Dialect.ofPath? p).isSome = true ↔ IsSourceName name := by
  have hdots : ∀ ext ∈ sourceExtensions, dot ∉ (ext : RawText).bytes := by decide
  rw [isSome_ofPath?_iff]
  constructor
  · rintro ⟨ext, hext, h⟩
    obtain ⟨-, stem, hstem, hlist⟩ := (extension?_eq_some_iff hname).1 h
    exact ⟨stem, ext, hstem, hext, hlist⟩
  · rintro ⟨stem, ext, hstem, hext, hlist⟩
    exact ⟨ext, hext, (extension?_eq_some_iff hname).2 ⟨hdots ext hext, stem, hstem, hlist⟩⟩

/-! ## The components of a path below another one -/

/-- The slash or the dot that a path begins with, as a component. -/
def leading (bytes : Bytes) : List Component :=
  match bytes with
  | 0x2F :: _ => [.root]
  | [0x2E] => [.current]
  | 0x2E :: 0x2F :: _ => [.current]
  | _ => []

theorem components_eq (p : Path) :
    p.components = leading p.bytes ++ (Workspace.wordsOf p).filterMap Component.ofWord? := by
  have hbody : ((words 0 [] p.bytes).filterMap fun word =>
      (Component.ofWord? word.1).map (·, word.2)).map (·.1) =
        (Workspace.wordsOf p).filterMap Component.ofWord? := by
    rw [Workspace.wordsOf, List.map_filterMap, List.filterMap_map]
    congr 1
    funext word
    simp [Option.map_map, Function.comp_def]
  rw [components, placedComponents, ← hbody]
  split
  · next hbytes => rw [hbytes]; rfl
  · next hbytes => rw [hbytes]; rfl
  · next hbytes => rw [hbytes]; rfl
  · next hroot hdot hdots => rw [leading, List.nil_append] <;> assumption

theorem leading_append {bytes : Bytes} (hne : bytes ≠ []) (name : Bytes) :
    leading (bytes ++ slash :: name) = leading bytes := by
  match bytes, hne with
  | b :: rest, _ =>
    by_cases hroot : b = 0x2F
    · subst hroot
      rfl
    · by_cases hdot : b = 0x2E
      · subst hdot
        cases rest with
        | nil => rfl
        | cons b' rest =>
          by_cases hslash : b' = 0x2F
          · subst hslash
            rfl
          · simp [leading, hslash]
      · simp [leading, hroot, hdot]

/-- A name behind a path is behind a slash, which the path may have already. -/
theorem exists_bytes_join (hp : p.bytes ≠ []) (hname : Workspace.IsEntryName name) :
    ∃ bytes, (p.join ⟨name⟩).bytes = bytes ++ slash :: name.bytes ∧
      (p.bytes = bytes ∧ bytes ≠ [] ∨ p.bytes = bytes ++ [slash]) := by
  have hrelative : isAbsolute ⟨name⟩ = false := by
    rw [isAbsolute, beq_eq_false_iff_ne]
    exact fun hhead => hname.slash_notMem (List.mem_of_mem_head? hhead)
  by_cases hslash : p.bytes.getLast? = some slash
  · obtain ⟨bytes, hbytes⟩ := List.getLast?_eq_some_iff.1 hslash
    exact ⟨bytes, by simp [join, hrelative, hbytes], .inr hbytes⟩
  · exact ⟨p.bytes, by simp [join, hrelative, hp, hslash], .inl ⟨rfl, hp⟩⟩

theorem length_le_length_join (hp : p.bytes ≠ []) (hname : Workspace.IsEntryName name) :
    p.bytes.length + name.bytes.length ≤ (p.join ⟨name⟩).bytes.length := by
  obtain ⟨bytes, hjoin, hbytes⟩ := exists_bytes_join hp hname
  rw [hjoin, List.length_append, List.length_cons]
  rcases hbytes with ⟨hbytes, -⟩ | hbytes
  · rw [hbytes]
    omega
  · rw [hbytes, List.length_append, List.length_singleton]
    omega

theorem ofWord?_of_isEntryName (h : Workspace.IsEntryName name) :
    Component.ofWord? name = some (.name name) := by
  simp [Component.ofWord?, h.ne_empty, h.ne_current, h.ne_parent]

/-- A name behind a path is one more component. -/
theorem components_join (hp : p.bytes ≠ []) (hname : Workspace.IsEntryName name) :
    (p.join ⟨name⟩).components = p.components ++ [.name name] := by
  obtain ⟨bytes, hjoin, hbytes⟩ := exists_bytes_join hp hname
  have hwords : (Workspace.wordsOf (p.join ⟨name⟩)).filterMap Component.ofWord? =
      ((words 0 [] bytes).map (·.1)).filterMap Component.ofWord? ++ [.name name] := by
    rw [Workspace.wordsOf, hjoin, Workspace.map_fst_words_append,
      Workspace.map_fst_words_of_notMem hname.slash_notMem, List.filterMap_append]
    simp [ofWord?_of_isEntryName hname]
  rw [components_eq, components_eq, hwords, hjoin, Workspace.wordsOf, ← List.append_assoc]
  rcases hbytes with ⟨hbytes, hne⟩ | hbytes
  · rw [hbytes, leading_append hne]
  · have hleading : leading (bytes ++ slash :: name.bytes) = leading (bytes ++ [slash]) := by
      by_cases hne : bytes = []
      · subst hne
        rfl
      · rw [leading_append hne, leading_append hne]
    have hempty : Component.ofWord? ⟨[]⟩ = none := by decide
    rw [hbytes, hleading, Workspace.map_fst_words_append, List.filterMap_append]
    simp [words, hempty]

end Path

namespace Workspace

variable {ws : Workspace} {p q : Path} {loc : Location} {names : List RawText} {name : RawText}

theorem bytes_ne_nil_of_locate (h : ws.locate p = .ok loc) : p.bytes ≠ [] := by
  unfold locate at h
  split at h
  · cases h
  · next hne => simpa using hne

theorem bytes_join_ne_nil (hp : p.bytes ≠ []) (hname : IsEntryName name) :
    (p.join ⟨name⟩).bytes ≠ [] := by
  obtain ⟨bytes, hjoin, -⟩ := Path.exists_bytes_join hp hname
  simp [hjoin]

/-- Names behind a path are that many more components. -/
theorem components_descend (hp : p.bytes ≠ []) (hnames : ∀ n ∈ names, IsEntryName n) :
    (descend p names).components = p.components ++ names.map .name := by
  induction names generalizing p with
  | nil => simp [descend]
  | cons name names ih =>
    rw [List.forall_mem_cons] at hnames
    have hrest := ih (bytes_join_ne_nil hp hnames.1) hnames.2
    rw [descend, List.foldl_cons, ← descend, hrest, Path.components_join hp hnames.1]
    simp

/-- The last of some names behind a path is the file name. -/
theorem fileName?_descend (hp : p.bytes ≠ [])
    (hnames : ∀ n ∈ names ++ [name], IsEntryName n) :
    (descend p (names ++ [name])).fileName? = some name := by
  rw [Path.fileName?, components_descend hp hnames]
  simp

/-- Names behind a path lead nowhere else than to the place below with these names. -/
theorem eq_of_locate_descend (h : ws.locate p = .ok loc) (hnames : ∀ n ∈ names, IsEntryName n)
    {place : Location} (hplace : ws.locate (descend p names) = .ok place) :
    place = loc ++ names := by
  have happend : ∀ (names : List RawText) (loc : Location),
      (names.map Path.Component.name).foldl Path.Component.move loc = loc ++ names := by
    intro names
    induction names with
    | nil => simp
    | cons name names ih => simp [ih, Path.Component.move]
  rw [locate_eq_move hplace, components_descend (bytes_ne_nil_of_locate h) hnames,
    List.foldl_append, ← locate_eq_move h, happend]

/-- Different names behind a path are different paths. -/
theorem descend_inj {names' : List RawText} (hp : p.bytes ≠ []) (hnames : ∀ n ∈ names, IsEntryName n)
    (hnames' : ∀ n ∈ names', IsEntryName n) (h : descend p names = descend p names') :
    names = names' := by
  have hcomponents := congrArg Path.components h
  rw [components_descend hp hnames, components_descend hp hnames'] at hcomponents
  exact List.map_injective_iff.2 (fun _ _ => Path.Component.name.inj)
    (List.append_cancel_left hcomponents)

end Workspace

end ClassSpacing
