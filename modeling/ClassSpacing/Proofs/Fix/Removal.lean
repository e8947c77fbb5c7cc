import ClassSpacing.Proofs.Fix.Levels

/-!
# Taking all blank lines away

Where no blank lines are allowed, the fix for a member takes all of them away above its anchor. A
comment that they kept apart from the member then stands right above it and belongs to it, and from
then on the lines above the comment count. So the member is flagged again after its fix exactly if
there is a blank line above the comments that come to belong to it (`Member.revealsGap`).
-/

namespace ClassSpacing

open Text

/-! ## What comes to belong to a member -/

/-- The siblings that are left above the comments that belong to what starts on the line `below`. -/
def detached (source : Text) (table : LineTable) (below : Nat) : List Tree → List Tree
  | [] => []
  | t :: rest =>
    if attaches source table below t then
      detached source table (table.lineOf t.span.start) rest
    else
      t :: rest

/-- Whether comments that do not belong to a member would belong to it on the line `below`, with a
    blank line above them and below the class header. -/
def Member.revealsGap (source : Text) (table : LineTable) (below : Nat) (m : Member) : Bool :=
  let left := detached source table (table.lineOf m.start) m.aboveHead
  match attachedStart source table below left with
  | some start =>
    m.body?.all (fun body => table.lineOf body.span.start < table.lineOf start) &&
      Rule.blankAbove source table (table.lineOf start) 1
  | none => false

/-- Where an offset goes when a fix takes the lines at its start away. -/
def Fix.move (f : Fix) (offset : Nat) : Nat :=
  if offset < f.offset then offset
  else f.offset + (offset - (f.offset + (f.length - f.replacement.byteLength)))

namespace Walk

variable {source : Text} {start top : Tree} {above left : List Tree}

theorem detached_eq (h : Walk source start above top left) :
    detached source (.ofText source) ((LineTable.ofText source).lineOf start.span.start) above =
      left := by
  induction h with
  | @stop start above h =>
    cases above with
    | nil => rfl
    | cons t rest =>
      have hfalse := h t rfl
      rw [Tree.belongs] at hfalse
      rw [detached, if_neg (by simp [hfalse])]
  | step h _ ih =>
    rw [Tree.belongs] at h
    rw [detached, if_pos h, ih]

theorem suffix (h : Walk source start above top left) : top :: left <:+ start :: above := by
  induction h with
  | stop => exact List.suffix_refl _
  | step _ _ ih => exact ih.trans (List.suffix_cons ..)

end Walk

namespace Site

/-- What a walk leaves are well-formed siblings above its end. -/
theorem Declares.of_mem_left {source : Text} {s : Site} {body top t : Tree} {left : List Tree}
    (hs : s.Declares source body) (h : Walk source s.toMember.head s.toMember.aboveHead top left)
    (ht : t ∈ left) : t.WellFormed source ∧ t.span.Within body.span ∧
      t.span.stop ≤ top.span.start := by
  have hsuffix := h.suffix.trans s.head_suffix_row
  have hrow : t ∈ s.row := hsuffix.subset (List.mem_cons_of_mem _ ht)
  have hordered := hs.isPlaced.ordered.sublist hsuffix.sublist
  exact ⟨hs.isPlaced.wellFormed_of_mem hrow, hs.isPlaced.within hrow,
    (List.pairwise_cons.1 hordered).1 t ht⟩

end Site

/-- The topmost of the comments that belong to something starts its line. -/
theorem startsLine_of_attachedStart {source : Text} {table : LineTable} {below start : Nat}
    {above : List Tree} (h : attachedStart source table below above = some start) :
    startsLine source table start = true := by
  induction above generalizing below with
  | nil => simp [attachedStart] at h
  | cons t rest ih =>
    rw [attachedStart] at h
    split at h
    · rename_i hattaches
      cases hrest : attachedStart source table (table.lineOf t.span.start) rest with
      | none =>
        rw [hrest] at h
        obtain rfl := Option.some.inj h
        rw [attaches, Bool.and_eq_true] at hattaches
        exact hattaches.2
      | some top =>
        rw [hrest] at h
        obtain rfl := Option.some.inj h
        exact ih hrest
    · simp at h

/-! ## The new anchor -/

namespace Respacing

variable {source target : Text} (r : Respacing source target)

/-- Comments before the blank lines attach as before. -/
theorem attaches_shift {t : Tree} (ht : t.WellFormed source) (hkind : t.kind = .comment)
    (hstop : t.span.stop < r.top.byteLength) (below : Nat) :
    attaches target (.ofText target) below (t.shift r.move) =
      attaches source (.ofText source) below t := by
  obtain ⟨c, hc, d, hd⟩ := ht.exists_cuts
  have hlt := ht.start_lt_stop (by rw [hkind]; rfl)
  have hline := r.lineOf_move_of_lt d (by omega)
  have hstarts := r.startsLine_move c (.inl (by omega))
  rw [← d.lineOf_offset, hd] at hline
  rw [hc] at hstarts
  simp only [attaches, Tree.kind_shift, Tree.span_shift, Span.map, hline, hstarts]

/-- The walk goes on over the comments before the blank lines as it does in the source. -/
theorem attachedStart_shift {left : List Tree}
    (h : ∀ t ∈ left, t.kind = .comment → t.WellFormed source ∧ t.span.stop < r.top.byteLength)
    (below : Nat) :
    attachedStart target (.ofText target) below (left.map (Tree.shift r.move)) =
      attachedStart source (.ofText source) below left := by
  induction left generalizing below with
  | nil => rfl
  | cons t rest ih =>
    rw [List.map_cons, attachedStart, attachedStart]
    by_cases hkind : t.kind = .comment
    · obtain ⟨ht, hstop⟩ := h t List.mem_cons_self hkind
      obtain ⟨c, hc, -⟩ := ht.exists_cuts
      have hlt := ht.start_lt_stop (by rw [hkind]; rfl)
      have hmove := r.move_of_lt (Nat.lt_trans hlt hstop)
      have hline := r.lineOf_move_of_lt c (by omega)
      rw [← c.lineOf_offset, hc, hmove] at hline
      rw [r.attaches_shift ht hkind hstop, ih fun u hu => h u (List.mem_cons_of_mem _ hu)]
      simp only [Tree.span_shift, Span.map, hmove, hline]
    · simp [attaches, hkind]

variable {u : Site} {other a : Tree} {left : List Tree}

/-- The anchor of the member whose line is respaced: the start of the comments that belong to it on
    its new line, or else where it was. -/
theorem anchor_shift (hu : u.Declares source other) (hanchor : a.span.start = r.anchor)
    (hwalk : Walk source u.toMember.head u.toMember.aboveHead a left) :
    (u.toMember.shift r.move).anchor target (.ofText target) =
      (attachedStart source (.ofText source) r.targetCut.line left).getD r.targetCut.offset := by
  obtain ⟨last, rest, hrest⟩ :=
    Walk.exists_walk target (a.shift r.move) (left.map (Tree.shift r.move))
  have hstep := hwalk.shift_then hu (List.suffix_refl _)
    (fun lower upper hn hle => r.belongs_shift_of_le hu hn (by omega)) hrest
  have hleft : ∀ t ∈ left, t.kind = .comment →
      t.WellFormed source ∧ t.span.stop < r.top.byteLength := by
    intro t ht hkind
    obtain ⟨hwell, -, hle⟩ := hu.of_mem_left hwalk ht
    refine ⟨hwell, hwell.stop_lt_of_endsLine (by rw [hkind]; rfl) r.source_eq_blank
      r.endsLine_top r.isBlank_gap_indent ?_⟩
    rw [hanchor] at hle
    exact hle
  have hstart : (a.shift r.move).span.start = r.targetCut.offset := by
    rw [Tree.span_shift, Span.map, hanchor, r.offset_targetCut]
  have hend := hrest.attachedStart_getD
  rw [hstart, r.targetCut.lineOf_offset, r.attachedStart_shift hleft] at hend
  exact (Walk.anchor_eq (m := u.toMember.shift r.move) hstep).trans hend.symm

end Respacing

/-! ## Which members are flagged -/

theorem Spacing.judge_exactly_zero (present : Nat) :
    (exactly 0).judge present = if present = 0 then .satisfied else .excess present := by
  simp only [judge, compare]
  split_ifs <;> first | omega | rfl

/-- The line above the line of a cut is blank if there are blank lines above. -/
theorem Cut.blankAbove_line {source : Text} (c : Cut source) :
    Rule.blankAbove source (.ofText source) c.line 1 = true ↔ 0 < blankRun c.above := by
  rcases c.endsLine.eq_nil_or_snoc with habove | ⟨top, line, habove, htop, hline⟩
  · simp [Rule.blankAbove, Cut.line, habove]
  · have hzero : line.count '\n' = 0 := List.count_eq_zero.2 hline
    have hcount : c.line = top.count '\n' + 1 := by simp [Cut.line, habove, hzero]
    have hsource : source = top ++ (line ++ '\n' :: (c.indent ++ c.rest)) :=
      c.source_eq.trans (by simp [habove])
    have hblank := Rule.blankAbove_of_cut htop hline (c.indent ++ c.rest) 1
    rw [← hsource] at hblank
    rw [hcount, hblank, habove, blankRun_snoc htop hline]
    split <;> simp_all

namespace Rule

variable {rule : Rule} {source target : Text} {m : Member} {c : Cut source} {body : Tree}

/-- Where no blank lines are allowed, the checked members with blank lines above them are flagged. -/
theorem isSome_diagnostic?_iff (hzero : rule.spacing = .exactly 0)
    (hanchor : m.anchor source (.ofText source) = c.offset) (hbody : m.body? = some body)
    (hreaches : c.Reaches m.stop) :
    (rule.examine source (.ofText source) m).diagnostic?.isSome = true ↔
      m.IsChecked source c body ∧ 0 < blankRun c.above := by
  constructor
  · intro h
    obtain ⟨d, hd⟩ := Option.isSome_iff_exists.1 h
    obtain ⟨c', text, hflags⟩ := rule.exists_flags_of_diagnostic? hd
    obtain ⟨body', hchecked⟩ := hflags.isChecked
    obtain rfl : c' = c := Cut.ext_of_offset (hchecked.anchor_eq.symm.trans hanchor)
    refine ⟨hchecked.unique hanchor hbody, Nat.pos_of_ne_zero fun hnone => hflags.unsatisfied ?_⟩
    rw [hzero, Spacing.judge_exactly_zero, if_pos hnone]
  · rintro ⟨hchecked, hpos⟩
    have houtcome : rule.spacing.judge (blankRun c.above) = .excess (blankRun c.above) := by
      rw [hzero, Spacing.judge_exactly_zero, if_neg (by omega)]
    obtain ⟨top, gap, hsplits⟩ := rule.exists_splits c (.inr ⟨_, houtcome⟩)
    have hspan := congrArg Standing.span? (standing_of_splits hchecked hsplits hreaches)
    rw [Verdict.span?_standing] at hspan
    obtain ⟨f, hf, -⟩ := Option.map_eq_some_iff.1 hspan
    obtain ⟨d, hd, -⟩ := Option.bind_eq_some_iff.1 hf
    rw [hd]
    rfl

/-- The span of an exchange of blank lines gives way to the replacement. -/
theorem splice_replacement_of_exchanges {text after top gap new : Text} {f : Fix}
    (h : c.Exchanges text f top gap new) (hrest : c.rest = text ++ after) :
    Edit.splice source f.offset f.stop f.replacement = top ++ (f.replacement ++ after) := by
  have hsplice := Edit.splice_append top (gap ++ (c.indent ++ text)) after f.replacement
  rwa [← h.source_eq hrest, ← h.length_eq, ← h.offset_eq] at hsplice

/-- The text after an exchange of blank lines. -/
theorem splice_of_exchanges {text after top gap new : Text} {f : Fix}
    (h : c.Exchanges text f top gap new) (hrest : c.rest = text ++ after) :
    Edit.splice source f.offset f.stop f.replacement = top ++ (new ++ (c.indent ++ c.rest)) := by
  rw [splice_replacement_of_exchanges h hrest, h.replacement_eq, hrest]
  simp

/-- Where no blank lines are allowed, a member is flagged for all that it has. -/
theorem Flags.judge_eq_excess {text : Text} {d : Diagnostic} (h : rule.Flags m d c text)
    (hzero : rule.spacing = .exactly 0) :
    rule.spacing.judge (blankRun c.above) = .excess (blankRun c.above) := by
  have hunsatisfied := h.unsatisfied
  rw [hzero, Spacing.judge_exactly_zero] at hunsatisfied ⊢
  split_ifs at hunsatisfied ⊢ with hnone
  · exact absurd rfl hunsatisfied
  · rfl

/-- The fix for a flagged member takes the blank lines above its anchor away. -/
theorem exists_removal (hzero : rule.spacing = .exactly 0) {s : Site}
    (hs : s.Declares source body) {d : Diagnostic}
    (hd : (rule.examine source (.ofText source) s.toMember).diagnostic? = some d) :
    ∃ f, d.fix? = some f ∧ ∀ target, target = Edit.splice source f.offset f.stop f.replacement →
      ∃ (r : Respacing source target) (c : Cut source),
        rule.FlagsAt s.toMember c body r.top r.gap ∧ r.anchor = c.offset ∧
        r.new = [] ∧ blankRun r.top = 0 ∧ f.offset = r.top.byteLength ∧ f.move = r.move := by
  have hvalid : ∀ present, rule.spacing.judge present ≠ .invalidOption := by
    intro present
    rw [hzero, Spacing.judge_exactly_zero]
    split <;> simp
  obtain ⟨f, hf⟩ := Option.isSome_iff_exists.1 (isSome_fix?_of_diagnostic? hvalid hd)
  obtain ⟨c, text, hflags⟩ := rule.exists_flags_of_diagnostic? hd
  obtain ⟨body', hchecked⟩ := hflags.isChecked
  obtain rfl := body_eq_of_declares hs hchecked
  obtain ⟨after, hrest⟩ := hflags.rest_eq
  have houtcome := hflags.judge_eq_excess hzero
  -- A fix that inserts lines is for another outcome.
  obtain ⟨top, gap, new, hexchange, ⟨missing, hmissing, -⟩ | ⟨hgap, rfl⟩⟩ :=
    (hflags.mends f hf).exists_exchanges
  · rw [houtcome] at hmissing
    cases hmissing
  have hat : rule.FlagsAt s.toMember c body' top gap :=
    ⟨hchecked, ⟨hexchange.above_eq, hexchange.endsLine_top, hexchange.endsLine_gap,
      hexchange.isBlank_gap, .inr hgap⟩, ⟨text, after, hrest, hflags.stop_eq⟩⟩
  have hrun : blankRun top = 0 := by
    have hcount := Outcome.excess.inj (houtcome.symm.trans hgap)
    rw [hexchange.above_eq, blankRun_append_blank hexchange.endsLine_top hexchange.endsLine_gap
      hexchange.isBlank_gap] at hcount
    omega
  have hlength : f.length - f.replacement.byteLength = gap.byteLength := by
    rw [hexchange.length_eq, hexchange.replacement_eq, List.nil_append, byteLength_append]
    omega
  refine ⟨f, hf, ?_⟩
  intro target hsplice
  obtain ⟨r, rfl, rfl, hnew, hanchor⟩ : ∃ r : Respacing source target,
      r.top = top ∧ r.gap = gap ∧ r.new = [] ∧ r.anchor = c.offset := by
    rw [hsplice, splice_of_exchanges hexchange hrest]
    exact hat.exists_respacing hs endsLine_nil rfl
  refine ⟨r, c, hat, hanchor, hnew, hrun, hexchange.offset_eq, funext fun offset => ?_⟩
  simp only [Fix.move, Respacing.move, moveBehind, hexchange.offset_eq, hlength, hnew,
    byteLength_nil, Nat.add_zero]

/-- A member that comes to be anchored before the respaced lines, with blank lines above, is checked
    if it is anchored below its class header. -/
theorem isChecked_shift_iff (r : Respacing source target) {d : Cut target}
    (hwell : body.WellFormed source) (hkind : body.kind = .classBody)
    (hbody : m.body? = some (body.shift r.move))
    (hanchor : m.anchor target (.ofText target) = d.offset) (habove : d.above = c.above)
    (hindent : d.indent = c.indent) (hblank : c.indent.isBlank = true)
    (hlt : c.offset < r.top.byteLength) (hle : body.span.start ≤ c.offset)
    (hrun : 0 < blankRun c.above) :
    m.IsChecked target d (body.shift r.move) ↔
      (LineTable.ofText source).lineOf body.span.start < c.line := by
  obtain ⟨e, he, -⟩ := hwell.exists_cuts
  have hline : d.line = c.line := congrArg (List.count '\n') habove
  have hheader : (LineTable.ofText target).lineOf (body.shift r.move).span.start = e.line := by
    rw [Tree.span_shift, Span.map, ← he]
    exact r.lineOf_move_of_lt e (by omega)
  have hsourceHeader : (LineTable.ofText source).lineOf body.span.start = e.line := by
    rw [← he, e.lineOf_offset]
  obtain ⟨top, line, htop, hends, hnewline, hlineBlank⟩ :=
    exists_blank_line_of_blankRun_pos c.endsLine hrun
  constructor
  · intro hchecked
    have hbelow := hchecked.header_lt
    omega
  · intro hbelow
    have hsource : source = top ++ ((line ++ ('\n' :: c.indent)) ++ c.rest) :=
      c.source_eq.trans (by simp [htop])
    have hmid : (line ++ ('\n' :: c.indent)).isBlank = true := by
      simp [isBlank_cons, hlineBlank, hblank]
    -- The blank line is not the one of the class header, which has a brace on it.
    have hfirst : e.line < top.count '\n' := by
      rcases hwell.start_lt_or_le (by rw [hkind]; rfl) hsource hmid with hstart | hstart
      · exact e.line_lt_count hsource hends (by omega)
      · have hoffset : (top ++ (line ++ ('\n' :: c.indent))).byteLength = c.offset := by
          simp [Cut.offset, htop, Nat.add_assoc]
        obtain rfl : e = c := Cut.ext_of_offset (by omega)
        omega
    have hcount : c.line = top.count '\n' + 1 := by
      have hzero : line.count '\n' = 0 := List.count_eq_zero.2 hnewline
      simp [Cut.line, htop, hzero]
    refine ⟨hanchor, hbody, by rw [hindent, hblank], by omega, by omega, ?_⟩
    rw [habove, htop, lastLine?_snoc hends hnewline, Option.any_some]
    exact isOpeningBraceLine_of_isBlank (by rw [isBlank_dropTrailingReturn, hlineBlank])

/-- The end of a member moves with its anchor, and stays behind all places up to there. -/
theorem reaches_stop_shift {s : Site} {a : Tree} (hs : s.Declares source body)
    (r : Respacing source target) (ha : a ∈ s.toMember.column) (hstart : a.span.start = r.anchor)
    {d : Cut target} (hd : d.offset ≤ r.targetCut.offset) :
    d.Reaches (s.toMember.shift r.move).stop := by
  obtain ⟨-, -, e, he⟩ := (hs.isPlaced.wellFormed_of_mem (List.mem_cons_self ..)).exists_cuts
  have hlast : r.anchor ≤ e.offset := by
    have := hs.start_lt_node_stop ha
    omega
  obtain ⟨e', -, -, -, -, he', -⟩ := r.exists_cut_of_le e hlast
  have hstop : (s.toMember.shift r.move).stop = e'.offset := by
    rw [he', he]
    simp [Member.stop, Member.shift, Site.toMember, Span.map]
  have hmono := r.monotone_move hlast
  rw [← he', ← r.offset_targetCut] at hmono
  rw [hstop]
  exact Cut.reaches_of_le (hd.trans hmono)

/-- After its fix a member is flagged again exactly if comments come to belong to it that have a
    blank line above them. -/
theorem isSome_diagnostic?_shift (hzero : rule.spacing = .exactly 0) {s : Site}
    (hs : s.Declares source body) (r : Respacing source target)
    (hflags : rule.FlagsAt s.toMember c body r.top r.gap) (hanchor : r.anchor = c.offset)
    (hnew : r.new = []) (hrun : blankRun r.top = 0) :
    (rule.examine target (.ofText target) (s.toMember.shift r.move)).diagnostic?.isSome =
      s.toMember.revealsGap source (.ofText source) r.targetCut.line := by
  obtain ⟨a, left, hwalk⟩ := Walk.exists_walk source s.toMember.head s.toMember.aboveHead
  have hstart : a.span.start = r.anchor := by
    rw [← hwalk.anchor_eq, hflags.isChecked.anchor_eq, hanchor]
  have hbody : s.toMember.body? = some body := hs.isPlaced.head?_around
  have hbody' : (s.toMember.shift r.move).body? = some (body.shift r.move) := by
    simp [Member.shift, hbody]
  have hanchor' := r.anchor_shift hs hstart hwalk
  have hreaches : ∀ {d : Cut target}, d.offset ≤ r.targetCut.offset →
      d.Reaches (s.toMember.shift r.move).stop := reaches_stop_shift hs r hwalk.mem_column hstart
  have hleft : detached source (.ofText source)
      ((LineTable.ofText source).lineOf s.toMember.start) s.toMember.aboveHead = left :=
    hwalk.detached_eq
  rw [Member.revealsGap, hleft]
  cases hattached : attachedStart source (.ofText source) r.targetCut.line left with
  | none =>
    -- The member is where it was, and all blank lines above it are gone.
    rw [hattached, Option.getD_none] at hanchor'
    have hiff := isSome_diagnostic?_iff hzero hanchor' hbody' (hreaches le_rfl)
    have habove : r.targetCut.above = r.top ++ r.new := rfl
    rw [habove, hnew, List.append_nil, hrun] at hiff
    simpa using hiff
  | some start =>
    rw [hattached, Option.getD_some] at hanchor'
    obtain ⟨t, ht, hkind, rfl⟩ := attachedStart_mem hattached
    obtain ⟨hwell, hwithin, hle⟩ := hs.of_mem_left hwalk ht
    have hmarked : t.kind.isMarked = true := by rw [hkind]; rfl
    have hbefore := hflags.stop_lt hwell hmarked (by omega)
    have hpos := hwell.start_lt_stop hmarked
    obtain ⟨b, hb, -⟩ := hwell.exists_cuts
    have hindent := startsLine_of_attachedStart hattached
    rw [← hb, b.startsLine_offset] at hindent
    obtain ⟨b', habove, hindent', hb'⟩ := r.exists_cut_of_lt b (by omega)
    rw [r.move_of_lt (by omega)] at hb'
    rw [← hb, ← hb'] at hanchor'
    have htop : r.top.byteLength ≤ r.targetCut.offset := by
      rw [r.offset_targetCut, r.move_of_le r.top_le_anchor]
      omega
    have hiff := isSome_diagnostic?_iff hzero hanchor' hbody' (hreaches (by omega))
    rw [Bool.eq_iff_iff, hiff, habove]
    have hblank := b.blankAbove_line
    rw [← b.lineOf_offset, hb] at hblank
    simp only [hbody, Option.all_some, Bool.and_eq_true, decide_eq_true_eq, hblank]
    refine and_congr_left fun hrunAbove => ?_
    rw [isChecked_shift_iff r hs.isPlaced.wellFormed hs.kind_body hbody' hanchor' habove hindent'
      hindent (by omega) (by rw [hb]; exact hwithin.1) hrunAbove, ← b.lineOf_offset, hb]

/-- Where no blank lines are allowed, every complaint comes with a fix. Once it is made, and the
    tree is otherwise the same, the member is complained about again exactly if the comments that
    come to belong to it have a blank line above them. -/
theorem removal_flags_again_iff (hzero : rule.spacing = .exactly 0) {read : Reader}
    {dialect : Dialect} (htree : (read dialect source).WellFormed source) {i : Nat}
    (hm : (read dialect source).classMembers[i]? = some m) {d : Diagnostic}
    (hd : (rule.verdicts source (read dialect source))[i]?.bind Verdict.diagnostic? = some d) :
    ∃ f, d.fix? = some f ∧
      ∀ target, target = Edit.splice source f.offset f.stop f.replacement →
        read dialect target = (read dialect source).shift f.move →
        ∃ v, (rule.verdicts target (read dialect target))[i]? = some v ∧
          v.diagnostic?.isSome = m.revealsGap source (.ofText source)
            ((LineTable.ofText source).lineOf f.offset) := by
  rw [verdicts_eq_map, List.getElem?_map, hm] at hd
  obtain ⟨s, hs, rfl⟩ := List.mem_map.1 (List.mem_of_getElem? hm)
  obtain ⟨hmem, hclass⟩ := List.mem_filter.1 hs
  obtain ⟨body, hdeclares⟩ := Site.exists_declares htree hmem hclass
  obtain ⟨f, hf, hremoval⟩ := exists_removal hzero hdeclares hd
  refine ⟨f, hf, ?_⟩
  intro target htarget hread
  obtain ⟨r, c, hflags, hanchor, hnew, hrun, hoffset, hmove⟩ := hremoval target htarget
  have hline : (LineTable.ofText source).lineOf f.offset = r.targetCut.line := by
    have hlineTop := LineTable.lineOf_byteLength r.top (r.gap ++ (r.indent ++ r.first :: r.rest))
    rw [← r.source_eq] at hlineTop
    rw [hoffset, hlineTop]
    simp [Cut.line, Respacing.targetCut, hnew]
  refine ⟨rule.examine target (.ofText target) (s.toMember.shift r.move), ?_, ?_⟩
  · rw [verdicts_eq_map, List.getElem?_map, hread, hmove, Tree.classMembers_shift,
      List.getElem?_map, hm, Option.map_some, Option.map_some]
  · rw [hline, isSome_diagnostic?_shift hzero hdeclares r hflags hanchor hnew hrun]

end Rule

/-! ## A comment between two members -/

namespace Noted

/-- A comment that blank lines keep apart from both members. -/
def source : Text :=
  "class A \x7b\n  a() \x7b\x7d\n\n  // note\n\n  b() \x7b\x7d\n\x7d\n".toList

/-- The source with the fix for the second member. -/
def fixed : Text :=
  "class A \x7b\n  a() \x7b\x7d\n\n  // note\n  b() \x7b\x7d\n\x7d\n".toList

def letters : Text := "classA\x7ba()\x7b\x7d//noteb()\x7b\x7d\x7d".toList

def tree : Tree :=
  .onLetters .program 0 23 [.classOn 0 23 [
    .methodOn 7 11 [], .onLetters .comment 12 17 [], .methodOn 18 22 []]]

theorem fits_tree : tree.fits letters = true := by decide

def read : Reader := .ofLetters letters tree

def rule : Rule := { spacing := .exactly 0 }

def fix : Fix := { offset := 30, length := 9, replacement := "  b() \x7b\x7d".toList }

theorem read_fixed :
    read .typeScript fixed = (read .typeScript source).shift fix.move :=
  Reader.ofLetters_eq_shift letters tree .typeScript (by decide) (by decide) rfl

/-- The member below the comment is flagged again after its fix. -/
theorem removal_flags_noted_again :
    ∃ m d, (read .typeScript source).classMembers[1]? = some m ∧
      (rule.verdicts source (read .typeScript source))[1]?.bind Verdict.diagnostic? = some d ∧
      d.fix? = some fix ∧ fixed = Edit.splice source fix.offset fix.stop fix.replacement ∧
      read .typeScript fixed = (read .typeScript source).shift fix.move ∧
      ∃ v, (rule.verdicts fixed (read .typeScript fixed))[1]? = some v ∧
        v.diagnostic?.isSome = true := by
  have hfix : ((rule.verdicts source (read .typeScript source))[1]?.bind
      Verdict.diagnostic?).bind (·.fix?) = some fix := by
    decide +kernel
  obtain ⟨d, hd, hf⟩ := Option.bind_eq_some_iff.1 hfix
  obtain ⟨m, hm⟩ : ∃ m, (read .typeScript source).classMembers[1]? = some m := ⟨_, rfl⟩
  have hreveals : m.revealsGap source (.ofText source)
      ((LineTable.ofText source).lineOf fix.offset) = true := by
    obtain rfl := Option.some.inj hm
    decide +kernel
  have hsplice : fixed = Edit.splice source fix.offset fix.stop fix.replacement := by
    decide +kernel
  obtain ⟨f, hf', hagain⟩ := Rule.removal_flags_again_iff rfl
    (Reader.wellFormed_ofLetters fits_tree .typeScript source) hm hd
  obtain rfl : f = fix := Option.some.inj (hf'.symm.trans hf)
  obtain ⟨v, hv, hflagged⟩ := hagain fixed hsplice read_fixed
  exact ⟨m, d, hm, hd, hf, hsplice, read_fixed, v, hv, hflagged.trans hreveals⟩

end Noted

end ClassSpacing
