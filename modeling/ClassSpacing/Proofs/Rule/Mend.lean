import ClassSpacing.Proofs.Rule.Respace

/-!
# Mending one member

Changing the blank lines above the anchor of one member does not change what the rule finds out about
any other member: whether it is measured, how many blank lines are above it, and what its fix covers.
The member itself is settled, if blank lines are left above it and they are what is required.
-/

namespace ClassSpacing

open Text

/-! ## Cuts at which the rule finds out the same -/

/-- Two cuts at the same place of two texts, with the same blank lines above them. -/
structure Respacing.Keeps {source target : Text} (r : Respacing source target) (c : Cut source)
    (d : Cut target) : Prop where
  lastLine?_eq : d.above.lastLine? = c.above.lastLine?
  blankRun_eq : blankRun d.above = blankRun c.above
  /-- What is left of the lines above without the last blank ones moves along. -/
  exists_top : ∀ {top gap : Text}, c.above = top ++ gap → top.EndsLine → gap.isBlank = true →
    ∃ top', d.above = top' ++ gap ∧ top'.EndsLine ∧ top'.byteLength = r.move top.byteLength
  /-- The lines of an earlier place and of the cut are as far apart as before, or too far for the
      rule to care. -/
  lines : ∀ e : Cut source, e.offset ≤ c.offset →
    (e.offset < r.top.byteLength ∨ r.anchor ≤ e.offset) →
    d.line + e.line = c.line + (LineTable.ofText target).lineOf (r.move e.offset) ∨
      (e.line + 1 < c.line ∧ (LineTable.ofText target).lineOf (r.move e.offset) + 1 < d.line)

namespace Respacing

variable {source target : Text} (r : Respacing source target)

theorem keeps_of_lt {c : Cut source} {d : Cut target} (h : c.offset < r.top.byteLength)
    (habove : d.above = c.above) : r.Keeps c d where
  lastLine?_eq := by rw [habove]
  blankRun_eq := by rw [habove]
  exists_top := by
    intro top gap hsplit htop _
    refine ⟨top, habove.trans hsplit, htop, (r.move_of_lt ?_).symm⟩
    have hlen := congrArg byteLength hsplit
    rw [byteLength_append] at hlen
    rw [Cut.offset] at h
    omega
  lines := by
    intro e hle _
    left
    rw [r.lineOf_move_of_lt e (by omega), Cut.line, habove]
    rfl

theorem keeps_of_le {c : Cut source} {d : Cut target} {x : Text}
    (hc : c.above = r.top ++ (r.gap ++ x)) (hd : d.above = r.top ++ (r.new ++ x))
    (hx : x.EndsLine) (hblank : x.isBlank = false) : r.Keeps c d where
  lastLine?_eq := by
    have hne : x ≠ [] := by rintro rfl; simp at hblank
    rw [hc, hd, ← List.append_assoc, ← List.append_assoc,
      lastLine?_append (r.endsLine_top.append r.endsLine_new) hx hne,
      lastLine?_append (r.endsLine_top.append r.endsLine_gap) hx hne]
  blankRun_eq := by
    rw [hc, hd, ← List.append_assoc, ← List.append_assoc,
      blankRun_append_of_not_blank (r.endsLine_top.append r.endsLine_new) hx hblank,
      blankRun_append_of_not_blank (r.endsLine_top.append r.endsLine_gap) hx hblank]
  exists_top := by
    intro top gap hsplit htop hgap
    have heq : (r.top ++ r.gap) ++ x = top ++ gap := by rw [← hsplit, hc, List.append_assoc]
    rcases List.append_eq_append_iff.1 heq with ⟨y, rfl, rfl⟩ | ⟨y, -, rfl⟩
    · refine ⟨r.top ++ (r.new ++ y), by simp [hd], ?_, ?_⟩
      · rw [← List.append_assoc]
        exact (r.endsLine_top.append r.endsLine_new).append htop.of_append
      · rw [r.move_of_le (by simp)]
        simp only [byteLength_append]
        omega
    · -- The lines behind the blank ones are not all blank.
      rw [isBlank_append, Bool.and_eq_true] at hgap
      simp [hgap.2] at hblank
  lines := by
    intro e hle hside
    have hcLine : c.line = r.top.count '\n' + r.gap.count '\n' + x.count '\n' := by
      simp [Cut.line, hc, Nat.add_assoc]
    have hdLine : d.line = r.top.count '\n' + r.new.count '\n' + x.count '\n' := by
      simp [Cut.line, hd, Nat.add_assoc]
    rcases hside with hlt | hge
    · right
      have hpos : 0 < x.count '\n' := by
        refine List.count_pos_iff.2 ?_
        by_contra hmem
        simp [hx.eq_nil hmem] at hblank
      have heLine := e.line_lt_count r.source_eq r.endsLine_top hlt
      rw [r.lineOf_move_of_lt e hlt]
      omega
    · left
      obtain ⟨k, hk, hk'⟩ := r.lineOf_move_of_le e hge
      rw [hk, hk']
      omega

/-- At a place where a node starts, the rule finds out the same in both texts, unless it is the place
    of the line that is respaced. -/
theorem exists_keeps (c : Cut source) (h : c.offset < r.top.byteLength ∨ r.anchor ≤ c.offset) :
    ∃ d : Cut target, d.offset = r.move c.offset ∧ d.indent = c.indent ∧
      (r.Keeps c d ∨ (c.indent.isBlank = true → c.offset = r.anchor)) := by
  rcases h with h | h
  · obtain ⟨d, habove, hindent, hoffset⟩ := r.exists_cut_of_lt c h
    exact ⟨d, hoffset, hindent, .inl (r.keeps_of_lt h habove)⟩
  · obtain ⟨d, x, hc, hd, hindent, hoffset, hx, ⟨-, hanchor⟩ | hblank⟩ := r.exists_cut_of_le c h
    · exact ⟨d, hoffset, hindent, .inr hanchor⟩
    · exact ⟨d, hoffset, hindent, .inl (r.keeps_of_le hc hd hx hblank)⟩

end Respacing

/-! ## Checked members -/

namespace Member.IsChecked

variable {source target : Text} {m m' : Member} {c : Cut source} {d : Cut target} {body body' : Tree}

/-- A member is checked where it is checked in another text, if the rule sees the same there. -/
theorem transfer (h : m.IsChecked source c body)
    (hanchor : m'.anchor target (.ofText target) = d.offset) (hbody : m'.body? = some body')
    (hfirst : m'.isFirst = m.isFirst) (hindent : d.indent = c.indent)
    (hlast : d.above.lastLine? = c.above.lastLine?)
    (hlines : d.line + (LineTable.ofText source).lineOf body.span.start =
        c.line + (LineTable.ofText target).lineOf body'.span.start ∨
      ((LineTable.ofText source).lineOf body.span.start + 1 < c.line ∧
        (LineTable.ofText target).lineOf body'.span.start + 1 < d.line)) :
    m'.IsChecked target d body' := by
  have hheader := h.header_lt
  have hbelow := h.not_belowHeader
  refine ⟨hanchor, hbody, by rw [hindent]; exact h.isBlank_indent, by omega, ?_,
    by rw [hlast]; exact h.not_belowBrace⟩
  rw [hfirst]
  intro hnot
  exact hbelow ⟨by omega, hnot.2⟩

/-- A member is checked at its anchor and in its body only. -/
theorem unique (hanchor : m.anchor source (.ofText source) = c.offset) (hbody : m.body? = some body)
    {c' : Cut source} {body' : Tree} (h : m.IsChecked source c' body') :
    m.IsChecked source c body := by
  obtain rfl : c' = c := Cut.ext_of_offset (h.anchor_eq.symm.trans hanchor)
  obtain rfl : body' = body := Option.some.inj (h.body_eq.symm.trans hbody)
  exact h

end Member.IsChecked

theorem Member.column_shift (move : Nat → Nat) (m : Member) :
    (m.shift move).column = m.column.map (Tree.shift move) := by
  simp [column, shift, List.takeWhile_map, Function.comp_def]

/-- A member of a moved tree is declared in the moved body. -/
theorem Site.Declares.shift {source target : Text} {tree body : Tree} {s : Site} {move : Nat → Nat}
    (h : s.Declares source body) (htree : (tree.shift move).WellFormed target)
    (hmem : s ∈ tree.sites) (hclass : s.isClassMember = true) :
    (s.shift move).Declares target (body.shift move) := by
  have hmem' : s.shift move ∈ (tree.shift move).sites := by
    rw [Tree.sites_shift]
    exact List.mem_map_of_mem hmem
  obtain ⟨body', h'⟩ := exists_declares htree hmem' (by rw [isClassMember_shift, hclass])
  have hhead : (s.shift move).around.head? = some (body.shift move) := by
    simp [Site.shift, h.isPlaced.head?_around]
  obtain rfl : body' = body.shift move :=
    Option.some.inj (h'.isPlaced.head?_around.symm.trans hhead)
  exact h'

/-! ## What becomes of the standings -/

/-- A standing in a text where offsets are moved. -/
def Standing.map (move : Nat → Nat) : Standing → Standing
  | flagged span => flagged (span.map move)
  | s => s

/-- A standing in a text where the members whose fixes cover the spans `mended` are mended. -/
def Standing.mend (mended : List Span) (move : Nat → Nat) : Standing → Standing
  | flagged span => if span ∈ mended then settled else flagged (span.map move)
  | s => s

/-- Mending one more member whose fix was not moved. -/
theorem Standing.mend_mend {standing : Standing} {mended : List Span} {span : Span}
    {move next : Nat → Nat}
    (h : ∀ a, standing = .flagged a → (a.map move = span ↔ a = span)) :
    (standing.mend mended move).mend [span] next = standing.mend (span :: mended) (next ∘ move) := by
  cases standing with
  | exempt => rfl
  | settled => rfl
  | flagged a =>
    have hiff := h a rfl
    have hmend : ∀ b : Span, (flagged b).mend [span] next =
        if b = span then settled else flagged (b.map next) := by
      intro b
      simp only [mend, List.mem_singleton]
    by_cases hmended : a ∈ mended
    · rw [mend, if_pos hmended, mend, mend, if_pos (List.mem_cons_of_mem _ hmended)]
      nofun
    · rw [mend, if_neg hmended, hmend, mend]
      by_cases heq : a = span
      · rw [if_pos (hiff.2 heq), if_pos (by simp [heq])]
      · rw [if_neg (mt hiff.1 heq), if_neg (by simp [heq, hmended])]
        rfl

namespace Rule

variable {rule : Rule} {source target : Text} {s u : Site} {body other a : Tree}

/-- The place where a member ends is reached from its anchor. -/
theorem reaches_stop {b : Tree} {c : Cut source} (hs : s.Declares source body)
    (hb : b ∈ s.toMember.column) (hc : c.offset = b.span.start) : c.Reaches s.toMember.stop := by
  obtain ⟨-, -, d, hd⟩ := (hs.isPlaced.wellFormed_of_mem (List.mem_cons_self ..)).exists_cuts
  have hlt := hs.start_lt_node_stop hb
  have hreaches : c.Reaches d.offset := Cut.reaches_of_le (by omega)
  rwa [hd] at hreaches

/-- A checked member stands in the target as in the source, if the rule finds out the same there. -/
theorem standing_of_keeps (hvalid : ∀ present, rule.spacing.judge present ≠ .invalidOption)
    (r : Respacing source target) {m m' : Member} {c : Cut source} {d : Cut target}
    (hchecked : m.IsChecked source c body) (hchecked' : m'.IsChecked target d other)
    (hkeeps : r.Keeps c d) (hreaches : c.Reaches m.stop) (hreaches' : d.Reaches m'.stop)
    (hstop : m'.stop = r.move m.stop) :
    (rule.examine target (.ofText target) m').standing =
      (rule.examine source (.ofText source) m).standing.map r.move := by
  have hflagged : ∀ {top gap : Text}, c.Splits (rule.spacing.judge (blankRun c.above)) top gap →
      (rule.examine target (.ofText target) m').standing =
        (rule.examine source (.ofText source) m).standing.map r.move := by
    intro top gap hsplits
    obtain ⟨top', habove, htop', hlen⟩ :=
      hkeeps.exists_top hsplits.above_eq hsplits.endsLine_top hsplits.isBlank_gap
    have hsplits' : d.Splits (rule.spacing.judge (blankRun d.above)) top' gap := by
      rw [hkeeps.blankRun_eq]
      exact ⟨habove, htop', hsplits.endsLine_gap, hsplits.isBlank_gap, hsplits.outcome_eq⟩
    rw [standing_of_splits hchecked hsplits hreaches, standing_of_splits hchecked' hsplits' hreaches',
      hlen, hstop]
    rfl
  cases houtcome : rule.spacing.judge (blankRun c.above) with
  | satisfied =>
    rw [standing_of_satisfied hchecked houtcome,
      standing_of_satisfied hchecked' (by rw [hkeeps.blankRun_eq, houtcome])]
    rfl
  | shortfall missing =>
    obtain ⟨top, gap, hsplits⟩ := rule.exists_splits c (.inl ⟨missing, houtcome⟩)
    exact hflagged hsplits
  | excess extra =>
    obtain ⟨top, gap, hsplits⟩ := rule.exists_splits c (.inr ⟨extra, houtcome⟩)
    exact hflagged hsplits
  | invalidOption => exact absurd houtcome (hvalid _)

/-- The anchor of another member is the start of the same node in both texts. The rule finds out the
    same there, or the member is anchored where its body starts. -/
theorem exists_anchors (r : Respacing source target) (hs : s.Declares source body)
    (hu : u.Declares source other) (hstands : s.Stands u body other) (ha : a ∈ u.toMember.column)
    (hanchor : a.span.start = r.anchor) (hheader : other.span.start < a.span.start) :
    ∃ b ∈ s.toMember.column, ∃ (c : Cut source) (d : Cut target),
      c.offset = b.span.start ∧ d.offset = r.move c.offset ∧ d.indent = c.indent ∧
      s.toMember.anchor source (.ofText source) = c.offset ∧
      (s.toMember.shift r.move).anchor target (.ofText target) = d.offset ∧
      (r.Keeps c d ∨ (c.indent.isBlank = true → body.span.start = c.offset)) := by
  obtain ⟨b, left, hwalk⟩ := Walk.exists_walk source s.toMember.head s.toMember.aboveHead
  have hwalk' := r.walk_of_stands hs hu hstands ha hanchor hheader hwalk
  have hb : b ∈ s.toMember.column := hwalk.mem_column
  have hmarked := Site.isMarked_of_mem_column hs.isDeclaration hb
  obtain ⟨c, hc, -⟩ := (hs.wellFormed hb).exists_cuts
  obtain ⟨d, hd, hindent, hkeeps⟩ := r.exists_keeps c
    (by rw [hc]; exact r.start_lt_or_le (hs.wellFormed hb) hmarked)
  refine ⟨b, hb, c, d, hc, hd, hindent, by rw [hwalk.anchor_eq, hc], ?_, hkeeps.imp_right ?_⟩
  · rw [hwalk'.anchor_eq, hd, hc, Tree.span_shift]
    rfl
  · -- Both members are anchored at the same place, so this one is on its header line.
    intro hplace hblank
    have := hplace hblank
    rw [hc]
    exact (hs.start_eq_of_eq hu hstands ha hheader hb (by omega)).symm

/-- A member that is anchored where its body starts is exempt. -/
theorem standing_of_start_eq (rule : Rule) {m : Member} {c : Cut source}
    (hanchor : m.anchor source (.ofText source) = c.offset) (hbody : m.body? = some body)
    (h : c.indent.isBlank = true → body.span.start = c.offset) :
    (rule.examine source (.ofText source) m).standing = .exempt := by
  refine rule.standing_of_not_isChecked fun c' body' hchecked => ?_
  have hhere := hchecked.unique hanchor hbody
  have hlt := hhere.header_lt
  rw [h hhere.isBlank_indent, c.lineOf_offset] at hlt
  exact Nat.lt_irrefl _ hlt

/-- Every other member stands as before. -/
theorem standing_of_stands (hvalid : ∀ present, rule.spacing.judge present ≠ .invalidOption)
    (r : Respacing source target) (hs : s.Declares source body)
    (hs' : (s.shift r.move).Declares target (body.shift r.move)) (hu : u.Declares source other)
    (hstands : s.Stands u body other) (ha : a ∈ u.toMember.column)
    (hanchor : a.span.start = r.anchor) (hheader : other.span.start < a.span.start) :
    (rule.examine target (.ofText target) (s.toMember.shift r.move)).standing =
      (rule.examine source (.ofText source) s.toMember).standing.map r.move := by
  have hbody : s.toMember.body? = some body := hs.isPlaced.head?_around
  have hbody' : (s.toMember.shift r.move).body? = some (body.shift r.move) := by
    simp [Member.shift, hbody]
  obtain ⟨b, hb, c, d, hc, hd, hindent, hsource, htarget, hsame | hstart⟩ :=
    exists_anchors r hs hu hstands ha hanchor hheader
  · have hfirst := s.toMember.isFirst_shift r.move
    obtain ⟨e, he, -⟩ := hs.isPlaced.wellFormed.exists_cuts
    have hlines := hsame.lines e (by rw [hc, he]; exact (hs.within hb).1) (by
      rw [he]
      exact r.start_lt_or_le hs.isPlaced.wellFormed (by rw [hs.kind_body]; rfl))
    have hbodyStart : (body.shift r.move).span.start = r.move e.offset := by
      rw [Tree.span_shift, Span.map, he]
    rw [← hbodyStart, ← e.lineOf_offset, he] at hlines
    -- The member is as far below its header as before, so it is checked in both texts or in none.
    by_cases hchecked : s.toMember.IsChecked source c body
    · have hchecked' := hchecked.transfer htarget hbody' hfirst hindent hsame.lastLine?_eq hlines
      have hmem : b.shift r.move ∈ (s.shift r.move).toMember.column := by
        rw [Site.toMember_shift, Member.column_shift]
        exact List.mem_map_of_mem hb
      have hreaches' := reaches_stop hs' hmem (by rw [hd, hc, Tree.span_shift]; rfl)
      rw [Site.toMember_shift] at hreaches'
      exact standing_of_keeps hvalid r hchecked hchecked' hsame (reaches_stop hs hb hc) hreaches'
        (by simp [Member.stop, Member.shift, Span.map])
    · have hexempt := rule.standing_of_not_isChecked fun c' body' h =>
        hchecked (h.unique hsource hbody)
      have hexempt' := rule.standing_of_not_isChecked fun d' body' h =>
        hchecked ((h.unique htarget hbody').transfer hsource hbody hfirst.symm hindent.symm
          hsame.lastLine?_eq.symm (by omega))
      rw [hexempt, hexempt']
      rfl
  · have hexempt' := rule.standing_of_start_eq htarget hbody' fun hblank => by
      rw [Tree.span_shift, Span.map, hd, hstart (hindent ▸ hblank)]
    rw [rule.standing_of_start_eq hsource hbody hstart, hexempt']
    rfl

end Rule

/-! ## The member that is mended -/

/-- A blank line opens nothing. -/
theorem Text.isOpeningBraceLine_of_isBlank {line : Text} (h : line.isBlank = true) :
    isOpeningBraceLine line = false := by
  have hspace : ∀ c ∈ line, isSpace c = true := fun c hc => isSpace_of_mem h hc
  have hbrace : line.dropWhile isSpace = [] := List.dropWhile_eq_nil_iff.2 hspace
  have hlist : line.dropWhile isParameterListChar = [] :=
    List.dropWhile_eq_nil_iff.2 fun c hc => by simp [isParameterListChar, hspace c hc]
  simp [isOpeningBraceLine, isBareBrace, hbrace, hlist]

namespace Respacing

variable {source target : Text} (r : Respacing source target)

/-- The cut at the respaced line in the target. -/
def targetCut : Cut target where
  above := r.top ++ r.new
  indent := r.indent
  rest := r.first :: r.rest
  source_eq := r.target_eq.trans (List.append_assoc ..).symm
  endsLine := r.endsLine_top.append r.endsLine_new
  sameLine := r.sameLine

theorem offset_targetCut : r.targetCut.offset = r.move r.anchor := by
  rw [r.move_of_le r.top_le_anchor]
  simp only [targetCut, Cut.offset, anchor, byteLength_append]
  omega

/-- The member whose line is respaced is still checked, if blank lines are left above it. -/
theorem isChecked_of_mended {u : Site} {other a : Tree} {left : List Tree}
    (hu : u.Declares source other) (hanchor : a.span.start = r.anchor)
    (hheader : other.span.start < a.span.start) (hrun : 0 < blankRun (r.top ++ r.new))
    (hwalk : Walk source u.toMember.head u.toMember.aboveHead a left) :
    (u.toMember.shift r.move).IsChecked target r.targetCut (other.shift r.move) := by
  have hmarked : other.kind.isMarked = true := by rw [hu.kind_body]; rfl
  have hwell := hu.isPlaced.wellFormed
  have hbody : u.toMember.body? = some other := hu.isPlaced.head?_around
  obtain ⟨e, he, -⟩ := hwell.exists_cuts
  obtain ⟨front, mid, hsource, hfront, hblank, hle, hlen, hcount⟩ := r.exists_front hrun
  -- The class header is above the blank lines.
  have hlt : e.offset < front.byteLength := by
    rcases hwell.start_lt_or_le hmarked hsource hblank with h | h
    · omega
    · omega
  have hline := r.lineOf_move_lt e hsource hfront hle hlt
  have hstart : (other.shift r.move).span.start = r.move e.offset := by
    rw [Tree.span_shift, Span.map, he]
  have hcut : r.targetCut.line = (r.top ++ r.new).count '\n' := rfl
  obtain ⟨top, line, habove, htop, hnewline, hlineBlank⟩ :=
    exists_blank_line_of_blankRun_pos (r.endsLine_top.append r.endsLine_new) hrun
  refine ⟨?_, by simp [Member.shift, hbody], r.isBlank_indent, ?_, ?_, ?_⟩
  · rw [(r.walk_of_mended hu hanchor hrun hwalk).anchor_eq, r.offset_targetCut, Tree.span_shift,
      Span.map, hanchor]
  · rw [hstart, hcut]
    omega
  · rw [hstart, hcut]
    omega
  · have hlast : r.targetCut.above.lastLine? = some line.dropTrailingReturn :=
      (congrArg lastLine? habove).trans (lastLine?_snoc htop hnewline)
    rw [hlast, Option.any_some]
    exact isOpeningBraceLine_of_isBlank (by rw [isBlank_dropTrailingReturn, hlineBlank])

end Respacing

/-! ## All members -/

namespace Rule

variable {rule : Rule} {source target : Text} {tree : Tree} {s u : Site} {other : Tree}

/-- Mending a flagged member changes its own standing only. -/
theorem standing_of_mended (hvalid : ∀ present, rule.spacing.judge present ≠ .invalidOption)
    (htree : tree.WellFormed source) (r : Respacing source target)
    (htarget : (tree.shift r.move).WellFormed target) (hu : u ∈ tree.sites)
    (huDeclares : u.Declares source other) {c : Cut source}
    (hflags : rule.FlagsAt u.toMember c other r.top r.gap) (hanchor : r.anchor = c.offset)
    (hrun : 0 < blankRun (r.top ++ r.new))
    (hsettled : rule.spacing.judge (blankRun (r.top ++ r.new)) = .satisfied)
    (hs : s ∈ tree.sites) (hclass : s.isClassMember = true) :
    (rule.examine target (.ofText target) (s.toMember.shift r.move)).standing =
      (rule.examine source (.ofText source) s.toMember).standing.mend
        [⟨r.top.byteLength, u.toMember.stop⟩] r.move := by
  obtain ⟨a, left, hwalk⟩ := Walk.exists_walk source u.toMember.head u.toMember.aboveHead
  have ha : a ∈ u.toMember.column := hwalk.mem_column
  have hstart : a.span.start = r.anchor := by
    rw [← hwalk.anchor_eq, hflags.isChecked.anchor_eq, hanchor]
  have hheader : other.span.start < a.span.start := by
    have := body_start_lt huDeclares hflags.isChecked hflags.splits.above_eq
      hflags.splits.isBlank_gap
    have := r.top_le_anchor
    omega
  have huStanding := standing_of_splits hflags.isChecked hflags.splits hflags.reaches
  obtain ⟨body, hsDeclares⟩ := Site.exists_declares htree hs hclass
  rcases hsDeclares.eq_or_stands htree hs hu huDeclares with rfl | hstands
  · have hchecked := r.isChecked_of_mended huDeclares hstart hheader hrun hwalk
    rw [standing_of_satisfied hchecked hsettled, huStanding]
    exact (if_pos (List.mem_singleton_self _)).symm
  · rw [standing_of_stands hvalid r hsDeclares (hsDeclares.shift htarget hs hclass) huDeclares
      hstands ha hstart hheader]
    cases hstanding : (rule.examine source (.ofText source) s.toMember).standing with
    | exempt => rfl
    | settled => rfl
    | flagged span =>
      -- Two fixes start at different places.
      have hlaminar := isLaminar_of_stands hsDeclares huDeclares hstands hstanding huStanding
      have hnot : span ∉ [(⟨r.top.byteLength, u.toMember.stop⟩ : Span)] :=
        fun hmem => hlaminar.1 (congrArg Span.start (List.mem_singleton.1 hmem))
      exact (if_neg hnot).symm

end Rule

end ClassSpacing
