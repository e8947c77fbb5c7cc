import ClassSpacing.Proofs.Rule.Standing
import Mathlib.Order.Monotone.Defs

/-!
# Changing the blank lines above a line

A `Respacing` is a change of the blank lines above a line that says something. Places before the
blank lines stay where they are, places from that line on move, and what the rule sees at them stays
the same: what stands before a place on its line, and how the lines of two places on the same side
of the blank lines compare.
-/

namespace ClassSpacing

open Text

/-- Where an offset goes when `gap` gives way to `new` behind `top`. -/
def Text.moveBehind (top gap new : Text) (offset : Nat) : Nat :=
  if offset < top.byteLength then offset
  else top.byteLength + new.byteLength + (offset - (top.byteLength + gap.byteLength))

/-- Two texts that differ in the blank lines above a line that says something. -/
structure Respacing (source target : Text) where
  top : Text
  gap : Text
  new : Text
  /-- What stands before the first character of the line. -/
  indent : Text
  first : Char
  rest : Text
  source_eq : source = top ++ (gap ++ (indent ++ first :: rest))
  target_eq : target = top ++ (new ++ (indent ++ first :: rest))
  top_ne : top ≠ []
  endsLine_top : top.EndsLine
  endsLine_gap : gap.EndsLine
  isBlank_gap : gap.isBlank = true
  endsLine_new : new.EndsLine
  isBlank_new : new.isBlank = true
  sameLine : '\n' ∉ indent
  isBlank_indent : indent.isBlank = true
  not_isSpace : isSpace first = false

namespace Respacing

variable {source target : Text} (r : Respacing source target)

/-- Where an offset goes. -/
def move : Nat → Nat := moveBehind r.top r.gap r.new

/-- The place of the first character of the line. -/
def anchor : Nat := (r.top ++ (r.gap ++ r.indent)).byteLength

theorem top_le_anchor : r.top.byteLength + r.gap.byteLength ≤ r.anchor := by
  simp only [anchor, byteLength_append]
  omega

theorem move_of_lt {offset : Nat} (h : offset < r.top.byteLength) : r.move offset = offset :=
  if_pos h

theorem move_of_le {offset : Nat} (h : r.top.byteLength + r.gap.byteLength ≤ offset) :
    r.move offset = r.top.byteLength + r.new.byteLength +
      (offset - (r.top.byteLength + r.gap.byteLength)) :=
  if_neg (by omega)

theorem monotone_move : Monotone r.move := by
  intro a b hab
  simp only [move, moveBehind]
  split_ifs <;> omega

/-! ## Cuts -/

/-- A cut before the blank lines. -/
theorem exists_cut_of_lt (c : Cut source) (h : c.offset < r.top.byteLength) :
    ∃ d : Cut target, d.above = c.above ∧ d.indent = c.indent ∧ d.offset = r.move c.offset := by
  have heq : (c.above ++ c.indent) ++ c.rest =
      r.top ++ (r.gap ++ (r.indent ++ r.first :: r.rest)) :=
    (List.append_assoc ..).trans (c.source_eq.symm.trans r.source_eq)
  obtain ⟨x, hx, -⟩ := exists_append_of_byteLength_le heq (by
    simpa [Cut.offset] using Nat.le_of_lt h)
  have htarget : target =
      c.above ++ (c.indent ++ (x ++ (r.new ++ (r.indent ++ r.first :: r.rest)))) :=
    r.target_eq.trans (by simp [hx])
  refine ⟨⟨c.above, c.indent, _, htarget, c.endsLine, c.sameLine⟩, rfl, rfl, ?_⟩
  rw [r.move_of_lt h]
  rfl

/-- A cut from the line on. The lines between `gap` and the cut are none, or they say something. -/
theorem exists_cut_of_le (c : Cut source) (h : r.anchor ≤ c.offset) :
    ∃ (d : Cut target) (x : Text), c.above = r.top ++ (r.gap ++ x) ∧
      d.above = r.top ++ (r.new ++ x) ∧ d.indent = c.indent ∧ d.offset = r.move c.offset ∧
      x.EndsLine ∧ (x = [] ∧ (c.indent.isBlank = true → c.offset = r.anchor) ∨
        x.isBlank = false) := by
  have heq : (r.top ++ (r.gap ++ r.indent)) ++ r.first :: r.rest =
      (c.above ++ c.indent) ++ c.rest := by
    have hsource := r.source_eq.symm.trans c.source_eq
    simpa using hsource
  obtain ⟨z, hz, hrest⟩ := exists_append_of_byteLength_le heq (by
    simpa [Cut.offset, anchor] using h)
  obtain ⟨x, j, hxj, hx, hj⟩ := exists_endsLine_append (r.indent ++ z)
  have hcut : c.above ++ c.indent = (r.top ++ (r.gap ++ x)) ++ j := by
    rw [hz]
    simp [← hxj]
  obtain ⟨habove, rfl⟩ := endsLine_append_inj hcut c.endsLine
    (r.endsLine_top.append (r.endsLine_gap.append hx)) c.sameLine hj
  have htarget : target = (r.top ++ (r.new ++ x)) ++ (c.indent ++ c.rest) := by
    refine r.target_eq.trans ?_
    rw [hrest, ← List.append_assoc r.indent, hxj]
    simp
  refine ⟨⟨_, _, _, htarget, r.endsLine_top.append (r.endsLine_new.append hx), c.sameLine⟩, x,
    habove, rfl, rfl, ?_, hx, ?_⟩
  · rw [r.move_of_le (Nat.le_trans r.top_le_anchor h)]
    simp only [Cut.offset, habove, byteLength_append]
    omega
  · -- The first character of the line is in `z`, if there is anything in `z`.
    cases z with
    | nil =>
      left
      rw [List.append_nil] at hxj
      have hnil : x = [] := hx.eq_nil fun hmem => r.sameLine (by simp [hxj, hmem])
      refine ⟨hnil, fun _ => ?_⟩
      rw [anchor, hxj, hnil]
      simp [Cut.offset, habove, hnil, Nat.add_assoc]
    | cons e z =>
      obtain rfl : r.first = e := (List.cons.inj hrest).1
      rcases eq_nil_or_not_blank hxj r.sameLine r.not_isSpace hx with ⟨hnil, hindent⟩ | hblank
      · exact .inl ⟨hnil, by simp [hindent]⟩
      · exact .inr hblank

/-! ## Nodes -/

theorem source_eq_blank :
    source = r.top ++ ((r.gap ++ r.indent) ++ r.first :: r.rest) :=
  r.source_eq.trans (by simp)

theorem isBlank_gap_indent : (r.gap ++ r.indent).isBlank = true := by
  simp [r.isBlank_gap, r.isBlank_indent]

/-- A node that the rule asks about starts before the blank lines or from the line on. -/
theorem start_lt_or_le {t : Tree} (ht : t.WellFormed source) (hmarked : t.kind.isMarked = true) :
    t.span.start < r.top.byteLength ∨ r.anchor ≤ t.span.start :=
  ht.start_lt_or_le hmarked r.source_eq_blank r.isBlank_gap_indent

/-- Before the blank lines, places keep their lines. -/
theorem lineOf_move_of_lt (c : Cut source) (h : c.offset < r.top.byteLength) :
    (LineTable.ofText target).lineOf (r.move c.offset) = c.line := by
  obtain ⟨d, habove, -, hoffset⟩ := r.exists_cut_of_lt c h
  rw [← hoffset, d.lineOf_offset, Cut.line, habove, Cut.line]

/-- From the line on, places keep their lines, as counted from there. -/
theorem lineOf_move_of_le (c : Cut source) (h : r.anchor ≤ c.offset) :
    ∃ k, c.line = r.top.count '\n' + r.gap.count '\n' + k ∧
      (LineTable.ofText target).lineOf (r.move c.offset) =
        r.top.count '\n' + r.new.count '\n' + k := by
  obtain ⟨d, x, habove, hdabove, -, hoffset, -⟩ := r.exists_cut_of_le c h
  refine ⟨x.count '\n', by simp [Cut.line, habove, Nat.add_assoc], ?_⟩
  rw [← hoffset, d.lineOf_offset, Cut.line, hdabove]
  simp [Nat.add_assoc]

/-- A place starts its line as before. -/
theorem startsLine_move (c : Cut source) (h : c.offset < r.top.byteLength ∨ r.anchor ≤ c.offset) :
    startsLine target (.ofText target) (r.move c.offset) =
      startsLine source (.ofText source) c.offset := by
  rcases h with h | h
  · obtain ⟨d, -, hindent, hoffset⟩ := r.exists_cut_of_lt c h
    rw [← hoffset, d.startsLine_offset, c.startsLine_offset, hindent]
  · obtain ⟨d, x, -, -, hindent, hoffset, -⟩ := r.exists_cut_of_le c h
    rw [← hoffset, d.startsLine_offset, c.startsLine_offset, hindent]

/-- A comment belongs to what stands below it as before, unless the blank lines are between them. -/
theorem belongs_shift {t lower : Tree} (ht : t.WellFormed source) (hmarked : t.kind.isMarked = true)
    (hlower : lower.WellFormed source) (hle : t.span.stop ≤ lower.span.start)
    (hside : lower.span.start < r.top.byteLength ∨ r.anchor < t.span.stop) :
    (t.shift r.move).belongs target (lower.shift r.move) = t.belongs source lower := by
  obtain ⟨c, hc, d, hd⟩ := ht.exists_cuts
  obtain ⟨e, he, -⟩ := hlower.exists_cuts
  have hstarts : startsLine target (.ofText target) (t.shift r.move).span.start =
      startsLine source (.ofText source) t.span.start := by
    rw [Tree.span_shift, Span.map, ← hc]
    exact r.startsLine_move c (by rw [hc]; exact r.start_lt_or_le ht hmarked)
  have hline : ((LineTable.ofText target).lineOf (lower.shift r.move).span.start ≤
      (LineTable.ofText target).lineOf (t.shift r.move).span.stop + 1) ↔
      (LineTable.ofText source).lineOf lower.span.start ≤
        (LineTable.ofText source).lineOf t.span.stop + 1 := by
    have hlowerStart : (lower.shift r.move).span.start = r.move e.offset := by simp [Span.map, he]
    have htStop : (t.shift r.move).span.stop = r.move d.offset := by simp [Span.map, hd]
    rw [hlowerStart, htStop, ← hd, ← he, d.lineOf_offset, e.lineOf_offset]
    rw [← hd, ← he] at hle hside
    rcases hside with hlt | hlt
    · rw [r.lineOf_move_of_lt e hlt, r.lineOf_move_of_lt d (by omega)]
    · obtain ⟨k, hk, hk'⟩ := r.lineOf_move_of_le e (by omega)
      obtain ⟨l, hl, hl'⟩ := r.lineOf_move_of_le d (by omega)
      rw [hk, hk', hl, hl']
      omega
  simp only [Tree.belongs, attaches, Tree.kind_shift, hstarts, hline]

/-! ## Blank lines in the target -/

/-- Where blank lines are left above the line, whatever says something above them is separated from
    it by a line at least. -/
theorem exists_front (h : 0 < blankRun (r.top ++ r.new)) :
    ∃ front mid, source = front ++ (mid ++ r.first :: r.rest) ∧ front.EndsLine ∧
      mid.isBlank = true ∧ front.byteLength ≤ r.top.byteLength ∧
      (front ++ mid).byteLength = r.anchor ∧
      front.count '\n' < (r.top ++ r.new).count '\n' := by
  by_cases hnew : r.new = []
  · rw [hnew, List.append_nil] at h ⊢
    obtain ⟨front, line, htop, hfront, -, hblank⟩ :=
      exists_blank_line_of_blankRun_pos r.endsLine_top h
    refine ⟨front, line ++ '\n' :: (r.gap ++ r.indent), ?_, hfront, ?_, ?_, ?_, ?_⟩
    · exact r.source_eq.trans (by simp [htop])
    · simp [isBlank_cons, hblank, r.isBlank_gap, r.isBlank_indent]
    · simp [htop]
    · simp [anchor, htop]
    · simp [htop]
  · have hmem : '\n' ∈ r.new := by
      by_contra hmem
      exact hnew (r.endsLine_new.eq_nil hmem)
    have hpos := List.count_pos_iff.2 hmem
    refine ⟨r.top, r.gap ++ r.indent, r.source_eq_blank, r.endsLine_top, r.isBlank_gap_indent,
      Nat.le_refl _, rfl, ?_⟩
    simp
    omega

/-- A place above such lines is more than one line above the line. -/
theorem lineOf_move_lt {front back : Text} (c : Cut source)
    (hsource : source = front ++ back) (hfront : front.EndsLine)
    (hle : front.byteLength ≤ r.top.byteLength) (h : c.offset < front.byteLength) :
    (LineTable.ofText target).lineOf (r.move c.offset) < front.count '\n' := by
  rw [r.lineOf_move_of_lt c (by omega)]
  exact c.line_lt_count hsource hfront h

end Respacing

/-! ## The walk up the column -/

/-- A walk goes the same way where the comments it passes belong to what stands below them as before,
    and may go on from its end. -/
theorem Walk.shift_then {source target : Text} {s : Site} {body start top last : Tree}
    {above left rest : List Tree} {move : Nat → Nat} (hs : s.Declares source body)
    (h : Walk source start above top left)
    (hsuffix : start :: above.takeWhile (·.kind == .comment) <:+ s.toMember.column)
    (hstep : ∀ lower upper, [lower, upper] <:+: s.toMember.column →
      top.span.start ≤ upper.span.start →
      (upper.shift move).belongs target (lower.shift move) = upper.belongs source lower)
    (hrest : Walk target (top.shift move) (left.map (Tree.shift move)) last rest) :
    Walk target (start.shift move) (above.map (Tree.shift move)) last rest := by
  induction h with
  | stop => exact hrest
  | @step start t top rest left h walk ih =>
    have hkind := Tree.kind_of_belongs h
    have hnext := (suffix_column hkind).trans hsuffix
    have hneighbours : [start, t] <:+: s.toMember.column := by
      rw [List.takeWhile_cons, if_pos (by simp [hkind])] at hsuffix
      have hinfix : [start, t] <:+: start :: t :: rest.takeWhile (·.kind == .comment) := ⟨[], _, rfl⟩
      exact hinfix.trans hsuffix.isInfix
    have hle := hs.start_le_of_suffix hnext walk.mem_column
    exact .step (by rw [hstep start t hneighbours hle, h]) (ih hnext hstep hrest)

/-- A walk ends where it did if the comment above its end does not come to belong to it. -/
theorem Walk.shift {source target : Text} {s : Site} {body start top : Tree} {above left : List Tree}
    {move : Nat → Nat} (hs : s.Declares source body) (h : Walk source start above top left)
    (hsuffix : start :: above.takeWhile (·.kind == .comment) <:+ s.toMember.column)
    (hstep : ∀ lower upper, [lower, upper] <:+: s.toMember.column →
      top.span.start ≤ upper.span.start →
      (upper.shift move).belongs target (lower.shift move) = upper.belongs source lower)
    (hstop : ∀ t ∈ left.head?, (t.shift move).belongs target (top.shift move) = false) :
    Walk target (start.shift move) (above.map (Tree.shift move)) (top.shift move)
      (left.map (Tree.shift move)) :=
  h.shift_then hs hsuffix hstep (.stop (by simpa using hstop))

namespace Respacing

variable {source target : Text} (r : Respacing source target) {s u : Site} {body other a b : Tree}
  {left : List Tree}

/-- The anchor of another member moves with it. -/
theorem walk_of_stands (hs : s.Declares source body) (hu : u.Declares source other)
    (hstands : s.Stands u body other) (ha : a ∈ u.toMember.column)
    (hanchor : a.span.start = r.anchor) (hheader : other.span.start < a.span.start)
    (h : Walk source s.toMember.head s.toMember.aboveHead b left) :
    Walk target (s.toMember.shift r.move).head (s.toMember.shift r.move).aboveHead (b.shift r.move)
      (left.map (Tree.shift r.move)) := by
  -- The respaced lines are not between two neighbours of this column.
  have hshift : ∀ lower upper, [lower, upper] <:+: s.toMember.column →
      (upper.shift r.move).belongs target (lower.shift r.move) = upper.belongs source lower := by
    intro lower upper hn
    have hlower : lower ∈ s.toMember.column := hn.subset (by simp)
    have hupper : upper ∈ s.toMember.column := hn.subset (by simp)
    refine r.belongs_shift (hs.wellFormed hupper)
      (Site.isMarked_of_mem_column hs.isDeclaration hupper) (hs.wellFormed hlower)
      (hs.stop_le_of_neighbours hn) ?_
    rcases hs.not_between hu hstands ha hheader hn with hlt | hlt
    · exact .inr (by omega)
    · rcases r.start_lt_or_le (hs.wellFormed hlower)
        (Site.isMarked_of_mem_column hs.isDeclaration hlower) with hlt' | hle
      · exact .inl hlt'
      · omega
  refine h.shift hs (List.suffix_refl _) (fun lower upper hn _ => hshift lower upper hn) ?_
  intro t ht
  by_cases hkind : t.kind = .comment
  · rw [hshift b t (h.neighbours_of_mem_head? ht hkind)]
    exact h.not_belongs t ht
  · simp [Tree.belongs, attaches, hkind]

/-- From the respaced line on, the comments of a column belong to what stands below them as before. -/
theorem belongs_shift_of_le (hu : u.Declares source other) {lower upper : Tree}
    (hn : [lower, upper] <:+: u.toMember.column) (hle : r.anchor ≤ upper.span.start) :
    (upper.shift r.move).belongs target (lower.shift r.move) = upper.belongs source lower := by
  have hlower : lower ∈ u.toMember.column := hn.subset (by simp)
  have hupper : upper ∈ u.toMember.column := hn.subset (by simp)
  have hupperStop := hu.start_lt_stop hupper
  exact r.belongs_shift (hu.wellFormed hupper)
    (Site.isMarked_of_mem_column hu.isDeclaration hupper) (hu.wellFormed hlower)
    (hu.stop_le_of_neighbours hn) (.inr (by omega))

/-- The anchor that is respaced moves, if blank lines are left above it. -/
theorem walk_of_mended (hu : u.Declares source other) (hanchor : a.span.start = r.anchor)
    (hrun : 0 < blankRun (r.top ++ r.new))
    (h : Walk source u.toMember.head u.toMember.aboveHead a left) :
    Walk target (u.toMember.shift r.move).head (u.toMember.shift r.move).aboveHead (a.shift r.move)
      (left.map (Tree.shift r.move)) := by
  have ha : a ∈ u.toMember.column := h.mem_column
  refine h.shift hu (List.suffix_refl _) ?_ ?_
  · intro lower upper hn hle
    exact r.belongs_shift_of_le hu hn (by omega)
  · -- The comment above is too far away now.
    intro t ht
    by_cases hkind : t.kind = .comment
    · have hn := h.neighbours_of_mem_head? ht hkind
      have hmem : t ∈ u.toMember.column := hn.subset (by simp)
      have hle := hu.stop_le_of_neighbours hn
      have hmarked := Site.isMarked_of_mem_column hu.isDeclaration hmem
      obtain ⟨front, mid, hsource, hfront, hblank, hfrontLe, hlen, hcount⟩ := r.exists_front hrun
      have hlt := (hu.wellFormed hmem).stop_lt_of_endsLine hmarked hsource hfront hblank (by omega)
      obtain ⟨-, -, d, hd⟩ := (hu.wellFormed hmem).exists_cuts
      obtain ⟨c, hc, -⟩ := (hu.wellFormed ha).exists_cuts
      have hline := r.lineOf_move_lt d hsource hfront hfrontLe (by omega)
      obtain ⟨k, -, hk⟩ := r.lineOf_move_of_le c (by omega)
      rw [List.count_append] at hcount
      rw [hd] at hline
      rw [hc] at hk
      have hfar : ¬ (LineTable.ofText target).lineOf (r.move a.span.start) ≤
          (LineTable.ofText target).lineOf (r.move t.span.stop) + 1 := by omega
      simp [Tree.belongs, attaches, Span.map, hfar]
    · simp [Tree.belongs, attaches, hkind]

end Respacing

end ClassSpacing
