import ClassSpacing.Fixer
import ClassSpacing.Proofs.Rule.Respace

/-!
# Steady readers

A steady reader gives well-formed trees, and blank lines above the anchor of a member make no other
difference to it than where nodes are. `Reader.ofLetters` is such a reader: it knows the tree of one
text, as nodes on the characters that are not white space, and finds it again in all texts that
differ from it in white space only.
-/

namespace ClassSpacing

open Text

/-! ## Steady readers -/

namespace Reader

/-- The texts that come from a source when the blank lines above the anchors of members of class
    declarations are changed. -/
inductive Respaced (read : Reader) (dialect : Dialect) (source : Text) : Text → Prop
  | refl : Respaced read dialect source source
  | step {text target : Text} {m : Member} (h : Respaced read dialect source text)
      (r : Respacing text target) (hm : m ∈ (read dialect text).members text)
      (hclass : m.container = .classBody) (hanchor : m.anchor text (.ofText text) = r.anchor) :
      Respaced read dialect source target

/-- A reader that gives well-formed trees for a source and for the texts that come from it, and to
    which blank lines above a member's anchor make no other difference than where nodes are. -/
structure IsSteady (read : Reader) (dialect : Dialect) (source : Text) : Prop where
  wellFormed : ∀ {text : Text}, read.Respaced dialect source text →
    (read dialect text).WellFormed text
  shift_eq : ∀ {text target : Text} {m : Member}, read.Respaced dialect source text →
    ∀ r : Respacing text target, m ∈ (read dialect text).members text → m.container = .classBody →
      m.anchor text (.ofText text) = r.anchor →
      read dialect target = (read dialect text).shift r.move

variable {read : Reader} {dialect : Dialect} {source text : Text}

theorem Respaced.trans (h : read.Respaced dialect source text) {target : Text}
    (h' : read.Respaced dialect text target) : read.Respaced dialect source target := by
  induction h' with
  | refl => exact h
  | step _ r hm hclass hanchor ih => exact .step ih r hm hclass hanchor

theorem IsSteady.of_respaced (h : read.IsSteady dialect source)
    (htext : read.Respaced dialect source text) : read.IsSteady dialect text where
  wellFormed hrespaced := h.wellFormed (htext.trans hrespaced)
  shift_eq hrespaced := h.shift_eq (htext.trans hrespaced)

end Reader

/-! ## Letters -/

namespace Text

/-- The characters of a text other than white space. -/
def letters (t : Text) : Text :=
  t.filter fun c => !isSpace c

/-- Where the letters of a text that starts at `offset` start and end, two places for each letter. -/
def marks (offset : Nat) : Text → List Nat
  | [] => []
  | c :: rest =>
    if isSpace c then
      marks (offset + c.utf8Size) rest
    else
      offset :: (offset + c.utf8Size) :: marks (offset + c.utf8Size) rest

theorem marks_append (offset : Nat) (s t : Text) :
    marks offset (s ++ t) = marks offset s ++ marks (offset + byteLength s) t := by
  induction s generalizing offset with
  | nil => rfl
  | cons c s ih =>
    rw [List.cons_append, marks, marks, ih, byteLength_cons, Nat.add_assoc]
    split <;> rfl

theorem marks_of_isBlank {t : Text} (h : isBlank t = true) (offset : Nat) : marks offset t = [] := by
  induction t generalizing offset with
  | nil => rfl
  | cons c t ih =>
    rw [isBlank_cons, Bool.and_eq_true] at h
    rw [marks, if_pos h.1, ih h.2]

theorem marks_add (offset distance : Nat) (t : Text) :
    marks (offset + distance) t = (marks offset t).map (· + distance) := by
  induction t generalizing offset with
  | nil => rfl
  | cons c t ih =>
    have hnext : offset + distance + c.utf8Size = offset + c.utf8Size + distance := by omega
    rw [marks, marks, hnext, ih]
    split <;> simp

theorem mem_marks {offset mark : Nat} {t : Text} (h : mark ∈ marks offset t) :
    offset ≤ mark ∧ mark ≤ offset + byteLength t := by
  induction t generalizing offset with
  | nil => simp [marks] at h
  | cons c t ih =>
    rw [marks] at h
    rw [byteLength_cons]
    split at h
    · have := ih h
      omega
    · rcases List.mem_cons.1 h with rfl | h
      · omega
      · rcases List.mem_cons.1 h with rfl | h
        · omega
        · have := ih h
          omega

theorem pairwise_marks (offset : Nat) (t : Text) : (marks offset t).Pairwise (· ≤ ·) := by
  induction t generalizing offset with
  | nil => exact List.Pairwise.nil
  | cons c t ih =>
    rw [marks]
    split
    · exact ih _
    · refine List.pairwise_cons.2 ⟨?_, List.pairwise_cons.2 ⟨fun m hm => (mem_marks hm).1, ih _⟩⟩
      intro m hm
      rcases List.mem_cons.1 hm with rfl | hm
      · omega
      · have := (mem_marks hm).1
        omega

/-- Where a letter is. -/
theorem exists_letter {t : Text} {i : Nat} {c : Char} (h : (letters t)[i]? = some c) (offset : Nat) :
    ∃ before after, t = before ++ c :: after ∧
      (marks offset t)[2 * i]? = some (offset + byteLength before) ∧
      (marks offset t)[2 * i + 1]? = some (offset + byteLength before + c.utf8Size) := by
  induction t generalizing i offset with
  | nil => simp [letters] at h
  | cons d t ih =>
    rw [marks]
    by_cases hd : isSpace d = true
    · rw [letters, List.filter_cons_of_neg (by simp [hd])] at h
      obtain ⟨before, after, rfl, hstart, hstop⟩ := ih h (offset + d.utf8Size)
      rw [if_pos hd, hstart, hstop]
      exact ⟨d :: before, after, rfl, by simp [Nat.add_assoc], by simp [Nat.add_assoc]⟩
    · rw [letters, List.filter_cons_of_pos (by simp [hd])] at h
      rw [if_neg hd]
      cases i with
      | zero =>
        obtain rfl : d = c := by simpa using h
        exact ⟨[], t, rfl, by simp, by simp⟩
      | succ i =>
        rw [List.getElem?_cons_succ] at h
        obtain ⟨before, after, rfl, hstart, hstop⟩ := ih h (offset + d.utf8Size)
        have hdouble : 2 * (i + 1) = 2 * i + 1 + 1 := by omega
        rw [hdouble, List.getElem?_cons_succ, List.getElem?_cons_succ, hstart,
          List.getElem?_cons_succ, List.getElem?_cons_succ, hstop]
        exact ⟨d :: before, after, rfl, by simp [Nat.add_assoc], by simp [Nat.add_assoc]⟩

/-- A mark of a text, by its number. -/
def mark (t : Text) (k : Nat) : Nat :=
  (marks 0 t).getD k 0

theorem mark_eq_comp {source target : Text} {move : Nat → Nat}
    (hmarks : marks 0 target = (marks 0 source).map move) (hzero : move 0 = 0) :
    target.mark = move ∘ source.mark := by
  funext k
  rw [mark, hmarks, Function.comp_apply, mark, List.getD_eq_getElem?_getD,
    List.getD_eq_getElem?_getD, List.getElem?_map]
  cases (marks 0 source)[k]? with
  | none => exact hzero.symm
  | some m => rfl

theorem length_marks (offset : Nat) (t : Text) :
    (marks offset t).length = 2 * (letters t).length := by
  induction t generalizing offset with
  | nil => rfl
  | cons c t ih =>
    rw [marks, letters, List.filter_cons]
    by_cases hc : isSpace c = true
    · simp [hc, ih, letters]
    · simp [hc, ih, letters]
      omega

theorem mark_le_mark {t : Text} {k l : Nat} (hkl : k ≤ l) (hl : l < 2 * (letters t).length) :
    mark t k ≤ mark t l := by
  rw [← length_marks 0 t] at hl
  have hk : k < (marks 0 t).length := by omega
  simp only [mark, List.getD_eq_getElem?_getD, List.getElem?_eq_getElem hk,
    List.getElem?_eq_getElem hl, Option.getD_some]
  rcases Nat.lt_or_eq_of_le hkl with hlt | rfl
  · exact List.pairwise_iff_getElem.1 (pairwise_marks 0 t) k l hk hl hlt
  · exact Nat.le_refl _

/-- What stands from the start of one letter to the end of another starts and ends with them. -/
theorem exists_slice_marks {t : Text} {i j : Nat} {c d : Char} (hij : i ≤ j)
    (hc : (letters t)[i]? = some c) (hd : (letters t)[j]? = some d) :
    ∃ mid, t.slice? (mark t (2 * i)) (mark t (2 * j + 1)) = some mid ∧ mid.head? = some c ∧
      mid.getLast? = some d := by
  have hj : j < (letters t).length := (List.getElem?_eq_some_iff.1 hd).1
  have hle := mark_le_mark (show 2 * i + 1 ≤ 2 * j + 1 by omega) (t := t) (by omega)
  obtain ⟨before, after, htext, hstart, hstop⟩ := exists_letter hc 0
  obtain ⟨front, back, htext', -, hend⟩ := exists_letter hd 0
  simp only [mark, List.getD_eq_getElem?_getD, hstart, hstop, hend, Option.getD_some,
    Nat.zero_add] at hle ⊢
  have hsplit : (before ++ [c]) ++ after = (front ++ [d]) ++ back := by
    rw [List.append_assoc, List.append_assoc]
    exact htext.symm.trans htext'
  obtain ⟨x, hx, hafter⟩ := exists_append_of_byteLength_le hsplit (by simpa using hle)
  refine ⟨c :: x, slice?_eq_some_iff.2 ⟨before, back, by simp [htext, hafter], rfl, ?_⟩, rfl, ?_⟩
  · have hlen := congrArg byteLength hx
    simp only [byteLength_append, byteLength_cons, byteLength_nil] at hlen ⊢
    omega
  · have hlast := congrArg List.getLast? hx
    rw [List.append_assoc, List.getLast?_append, List.getLast?_append] at hlast
    simpa using hlast.symm

end Text

/-! ## Trees on letters -/

namespace Tree

mutual

/-- Whether the nodes of a tree on marks start and end with letters and stand in order. -/
def fits (letters : Text) : Tree → Bool
  | ⟨kind, span, _, _, _, children⟩ =>
    span.start % 2 == 0 && span.stop % 2 == 1 && span.start < span.stop &&
      span.stop < 2 * letters.length &&
      (kind != .classBody || letters[span.start / 2]? == some '{') &&
      fitsList letters span.start span.stop children

/-- Whether some trees fit between two marks. -/
def fitsList (letters : Text) (start stop : Nat) : List Tree → Bool
  | [] => true
  | t :: rest =>
    start ≤ t.span.start && t.span.stop ≤ stop && t.fits letters &&
      fitsList letters t.span.stop stop rest

end

mutual

/-- A tree on the letters of a text is well formed where they stand. -/
theorem wellFormed_of_fits (text : Text) :
    ∀ t : Tree, t.fits text.letters = true → (t.shift text.mark).WellFormed text
  | ⟨kind, span, isName, isMissing, hasFault, children⟩, h => by
    simp only [fits, Bool.and_eq_true, beq_iff_eq, decide_eq_true_eq, Bool.or_eq_true,
      bne_iff_ne] at h
    obtain ⟨⟨⟨⟨⟨heven, hodd⟩, hlt⟩, hstop⟩, hbrace⟩, hchildren⟩ := h
    obtain ⟨i, hi⟩ : ∃ i, span.start = 2 * i := ⟨span.start / 2, by omega⟩
    obtain ⟨j, hj⟩ : ∃ j, span.stop = 2 * j + 1 := ⟨span.stop / 2, by omega⟩
    have hfirst : i < text.letters.length := by omega
    have hlast : j < text.letters.length := by omega
    obtain ⟨mid, hslice, hmidHead, hmidLast⟩ := exists_slice_marks (show i ≤ j by omega)
      (List.getElem?_eq_getElem hfirst) (List.getElem?_eq_getElem hlast)
    have hsolid : ∀ c ∈ text.letters, isSpace c = false := by
      intro c hc
      simpa using (List.mem_filter.1 hc).2
    obtain ⟨hbelow, hinside, hordered⟩ :=
      wellFormedList_of_fitsList text span.start span.stop children hchildren hstop
    have hslice' : (Tree.shift text.mark ⟨kind, span, isName, isMissing, hasFault, children⟩).text?
        text = some mid := by
      rw [text?, span_shift, Span.map, hi, hj]
      exact hslice
    refine .intro hslice' ?_ ?_ ?_ ?_ ?_
    · exact fun _ => ⟨⟨_, hmidHead, hsolid _ (List.getElem_mem hfirst)⟩,
        ⟨_, hmidLast, hsolid _ (List.getElem_mem hlast)⟩⟩
    · intro hkind
      rw [kind_shift] at hkind
      have hletter := hbrace.resolve_left fun hne => hne hkind
      rw [hi, Nat.mul_div_cancel_left i (by omega), List.getElem?_eq_getElem hfirst] at hletter
      rw [hmidHead, hletter]
    · rw [children_shift, List.pairwise_map]
      simpa [Span.map] using hordered
    · rw [children_shift, List.forall_mem_map]
      intro u hu
      rw [span_shift, span_shift]
      exact hinside u hu
    · rw [children_shift, List.forall_mem_map]
      exact hbelow

theorem wellFormedList_of_fitsList (text : Text) (start stop : Nat) :
    ∀ ts : List Tree, fitsList text.letters start stop ts = true → stop < 2 * text.letters.length →
      (∀ u ∈ ts, (u.shift text.mark).WellFormed text) ∧
      (∀ u ∈ ts, text.mark start ≤ text.mark u.span.start ∧
        text.mark u.span.stop ≤ text.mark stop) ∧
      ts.Pairwise fun a b => text.mark a.span.stop ≤ text.mark b.span.start
  | [], _, _ => ⟨nofun, nofun, List.Pairwise.nil⟩
  | t :: rest, h, hstop => by
    simp only [fitsList, Bool.and_eq_true, decide_eq_true_eq] at h
    obtain ⟨⟨⟨hle, hle'⟩, hfits⟩, hrest⟩ := h
    have hwell := wellFormed_of_fits text t hfits
    obtain ⟨hbelow, hinside, hordered⟩ :=
      wellFormedList_of_fitsList text t.span.stop stop rest hrest hstop
    have hlt : t.span.start < t.span.stop := by
      cases t
      simp only [fits, Bool.and_eq_true, decide_eq_true_eq] at hfits
      exact hfits.1.1.1.2
    have hstart : text.mark start ≤ text.mark t.span.start := mark_le_mark hle (by omega)
    have hhere : text.mark t.span.start ≤ text.mark t.span.stop :=
      mark_le_mark (Nat.le_of_lt hlt) (by omega)
    refine ⟨List.forall_mem_cons.2 ⟨hwell, hbelow⟩, List.forall_mem_cons.2
      ⟨⟨hstart, mark_le_mark hle' hstop⟩, fun u hu => ?_⟩,
      List.pairwise_cons.2 ⟨fun u hu => (hinside u hu).1, hordered⟩⟩
    have hu' := hinside u hu
    exact ⟨by omega, hu'.2⟩

end

end Tree

/-! ## Respacing moves marks -/

namespace Respacing

variable {source target : Text} (r : Respacing source target)

theorem letters_eq (r : Respacing source target) : target.letters = source.letters := by
  have hbehind : ∀ {blank : Text}, blank.isBlank = true →
      (r.top ++ (blank ++ (r.indent ++ r.first :: r.rest))).letters =
        (r.top ++ (r.indent ++ r.first :: r.rest)).letters := by
    intro blank hblank
    have hnil : blank.letters = [] :=
      List.filter_eq_nil_iff.2 fun c hc => by simp [isSpace_of_mem hblank hc]
    simp only [letters, List.filter_append] at hnil ⊢
    rw [hnil, List.nil_append]
  calc target.letters
      = (r.top ++ (r.new ++ (r.indent ++ r.first :: r.rest))).letters :=
        congrArg letters r.target_eq
    _ = (r.top ++ (r.gap ++ (r.indent ++ r.first :: r.rest))).letters := by
        rw [hbehind r.isBlank_new, hbehind r.isBlank_gap]
    _ = source.letters := congrArg letters r.source_eq.symm

/-- The letters before the blank lines end before the last line feed there. -/
theorem mark_lt_top {mark : Nat} (h : mark ∈ marks 0 r.top) : mark < r.top.byteLength := by
  rcases r.endsLine_top.eq_nil_or_snoc with hnil | ⟨front, line, htop, -, -⟩
  · exact absurd hnil r.top_ne
  · have hblank : isBlank ['\n'] = true := rfl
    rw [htop, ← List.append_assoc, marks_append _ (front ++ line), marks_of_isBlank hblank,
      List.append_nil] at h
    have hle := (mem_marks h).2
    have hnewline := Char.utf8Size_pos '\n'
    rw [htop, ← List.append_assoc, byteLength_append (front ++ line)]
    simp only [byteLength_cons, byteLength_nil]
    omega

theorem marks_eq : marks 0 target = (marks 0 source).map r.move := by
  have hbehind : ∀ blank : Text, blank.isBlank = true →
      marks 0 (r.top ++ (blank ++ (r.indent ++ r.first :: r.rest))) = marks 0 r.top ++
        (marks 0 (r.indent ++ r.first :: r.rest)).map
          (· + (r.top.byteLength + blank.byteLength)) := by
    intro blank hblank
    rw [marks_append, marks_append, marks_of_isBlank hblank, List.nil_append, ← marks_add]
    simp
  have hsource := hbehind r.gap r.isBlank_gap
  have htarget := hbehind r.new r.isBlank_new
  rw [← r.source_eq] at hsource
  rw [← r.target_eq] at htarget
  rw [hsource, htarget, List.map_append, List.map_map]
  congr 1
  · exact (List.map_id _).symm.trans
      (List.map_congr_left fun m hm => (r.move_of_lt (r.mark_lt_top hm)).symm)
  · refine List.map_congr_left fun m _ => ?_
    rw [Function.comp_apply, r.move_of_le (by omega)]
    omega

theorem move_zero : r.move 0 = 0 :=
  r.move_of_lt (byteLength_pos r.top_ne)

end Respacing

namespace Reader

/-- The reader that knows the tree of the texts with the given letters, and sees nothing in others. -/
def ofLetters (letters : Text) (t : Tree) : Reader := fun _ text =>
  if text.letters = letters then t.shift text.mark else { kind := .program, span := ⟨0, 0⟩ }

theorem wellFormed_ofLetters {letters : Text} {t : Tree} (h : t.fits letters = true)
    (dialect : Dialect) (text : Text) : (ofLetters letters t dialect text).WellFormed text := by
  rw [ofLetters]
  split
  · rename_i heq
    exact Tree.wellFormed_of_fits text t (heq ▸ h)
  · have hempty : text.slice? 0 0 = some [] := slice?_eq_some_iff.2 ⟨[], text, by simp, rfl, rfl⟩
    exact .intro hempty nofun nofun List.Pairwise.nil nofun nofun

/-- A reader by letters finds the moved tree in a text with moved letters. -/
theorem ofLetters_eq_shift {source target : Text} {move : Nat → Nat} (letters : Text) (t : Tree)
    (dialect : Dialect) (hletters : target.letters = source.letters)
    (hmarks : marks 0 target = (marks 0 source).map move) (hzero : move 0 = 0) :
    ofLetters letters t dialect target = (ofLetters letters t dialect source).shift move := by
  rw [ofLetters, ofLetters, hletters]
  split
  · rw [Tree.shift_shift, mark_eq_comp hmarks hzero]
  · simp [Tree.shift, Tree.shiftList, Span.map, hzero]

/-- A reader by letters is steady. -/
theorem isSteady_ofLetters {letters : Text} {t : Tree} (h : t.fits letters = true)
    (dialect : Dialect) (source : Text) : (ofLetters letters t).IsSteady dialect source where
  wellFormed _ := wellFormed_ofLetters h dialect _
  shift_eq := by
    intro text target m _ r _ _ _
    exact ofLetters_eq_shift letters t dialect r.letters_eq r.marks_eq r.move_zero

end Reader

/-! ## A class inside a method -/

namespace Tree

/-- A node on the letters from `first` to `last`. -/
def onLetters (kind : Kind) (first last : Nat) (children : List Tree) : Tree :=
  { kind, span := ⟨2 * first, 2 * last + 1⟩, children }

/-- A method with a name of one letter and no parameters. -/
def methodOn (first last : Nat) (statements : List Tree) : Tree :=
  let name := onLetters (.other "property_identifier") first first []
  let parameters := onLetters (.other "formal_parameters") (first + 1) (first + 2) [
    onLetters (.word "(") (first + 1) (first + 1) [],
    onLetters (.word ")") (first + 2) (first + 2) []]
  let body := onLetters (.other "statement_block") (first + 3) last
    (onLetters (.word "\x7b") (first + 3) (first + 3) [] ::
      (statements ++ [onLetters (.word "\x7d") last last []]))
  onLetters .methodDefinition first last [{ name with isName := true }, parameters, body]

/-- A class with a name of one letter. -/
def classOn (first last : Nat) (members : List Tree) : Tree :=
  let body := onLetters .classBody (first + 6) last
    (onLetters (.word "\x7b") (first + 6) (first + 6) [] ::
      (members ++ [onLetters (.word "\x7d") last last []]))
  onLetters .classDeclaration first last [
    onLetters (.word "class") first (first + 4) [],
    onLetters (.other "type_identifier") (first + 5) (first + 5) [], body]

end Tree

namespace Nested

/-- A class with a method that declares a class. No two members are separated. -/
def source : Text :=
  ("class A \x7b\n  a() \x7b\x7d\n  b() \x7b\n    class B \x7b\n      c() \x7b\x7d\n" ++
    "      d() \x7b\x7d\n    \x7d\n  \x7d\n  e() \x7b\x7d\n\x7d").toList

def tree : Tree :=
  .onLetters .program 0 40 [.classOn 0 40 [
    .methodOn 7 11 [],
    .methodOn 12 34 [.classOn 16 33 [.methodOn 23 27 [], .methodOn 28 32 []]],
    .methodOn 35 39 []]]

def letters : Text :=
  ("classA\x7ba()\x7b\x7db()\x7bclassB\x7bc()\x7b\x7dd()\x7b\x7d\x7d\x7d" ++
    "e()\x7b\x7d\x7d").toList

theorem fits_tree : tree.fits letters = true := by decide

/-- Fixing the class and the one inside it. -/
def task : FixTask where
  rule := {}
  read := .ofLetters letters tree
  dialect := .typeScript
  file := ⟨"a.ts"⟩

theorem wellFormed_read (text : Text) : (task.read task.dialect text).WellFormed text :=
  Reader.wellFormed_ofLetters fits_tree .typeScript text

end Nested

end ClassSpacing
