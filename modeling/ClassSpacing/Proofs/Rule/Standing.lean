import ClassSpacing.Proofs.Rule.Anchor

/-!
# How members stand

A verdict comes down to one of three things: the member is exempt, its spacing is settled, or it is
flagged, with the span that its fix covers. The fixes for two members of a well-formed tree start at
different places, and one lies inside the other or they are apart.
-/

namespace ClassSpacing

open Text

/-- What a verdict comes down to. -/
inductive Standing where
  /-- The spacing of the member is not measured, or there is nothing to be done about it. -/
  | exempt
  /-- The member has the required spacing. -/
  | settled
  /-- The member has a fix that covers the given span. -/
  | flagged (span : Span)
deriving Repr, DecidableEq

/-- The span of the fix, if there is one. -/
def Standing.span? : Standing → Option Span
  | flagged span => some span
  | _ => none

/-- The bytes that a fix replaces. -/
def Fix.span (f : Fix) : Span := ⟨f.offset, f.stop⟩

/-- What a verdict comes down to. -/
def Verdict.standing : Verdict → Standing
  | measured _ outcome diagnostic? =>
    match diagnostic?.bind (·.fix?) with
    | some f => .flagged f.span
    | none => if outcome.isSatisfied then .settled else .exempt
  | _ => .exempt

theorem Verdict.span?_standing (v : Verdict) :
    v.standing.span? = (v.diagnostic?.bind (·.fix?)).map Fix.span := by
  cases v with
  | measured line outcome d? =>
    have hdiagnostic : (measured line outcome d?).diagnostic? = d? := rfl
    rw [hdiagnostic, standing]
    cases d?.bind (·.fix?) with
    | some f => rfl
    | none => cases outcome <;> rfl
  | _ => rfl

/-! ## The lines above a flagged member -/

/-- The lines above a cut, split where the fix for what was found out about them starts. -/
structure Cut.Splits {source : Text} (c : Cut source) (outcome : Outcome) (top gap : Text) :
    Prop where
  above_eq : c.above = top ++ gap
  endsLine_top : top.EndsLine
  endsLine_gap : gap.EndsLine
  isBlank_gap : gap.isBlank = true
  outcome_eq : (gap = [] ∧ ∃ missing, outcome = .shortfall missing) ∨
    outcome = .excess (gap.count '\n')

/-- The place where a member ends, seen from the cut at its anchor. -/
def Cut.Reaches {source : Text} (c : Cut source) (stop : Nat) : Prop :=
  ∃ text after, c.rest = text ++ after ∧ stop = c.offset + text.byteLength

theorem Cut.reaches_of_le {source : Text} {c d : Cut source} (h : c.offset ≤ d.offset) :
    c.Reaches d.offset := by
  have heq : (c.above ++ c.indent) ++ c.rest = (d.above ++ d.indent) ++ d.rest := by
    rw [List.append_assoc, List.append_assoc, ← c.source_eq, ← d.source_eq]
  obtain ⟨text, hfront, hrest⟩ := exists_append_of_byteLength_le heq (by simpa [offset] using h)
  refine ⟨text, d.rest, hrest, ?_⟩
  have hlen := congrArg byteLength hfront
  simpa [offset, Nat.add_assoc] using hlen

namespace Rule

variable {rule : Rule} {source : Text} {m : Member} {c : Cut source} {body : Tree} {top gap : Text}

theorem exists_splits (rule : Rule) (c : Cut source)
    (h : (∃ missing, rule.spacing.judge (blankRun c.above) = .shortfall missing) ∨
      ∃ extra, rule.spacing.judge (blankRun c.above) = .excess extra) :
    ∃ top gap, c.Splits (rule.spacing.judge (blankRun c.above)) top gap := by
  rcases h with ⟨missing, h⟩ | ⟨extra, h⟩
  · exact ⟨c.above, [], by simp, c.endsLine, by simp, rfl, .inl ⟨rfl, missing, h⟩⟩
  · obtain ⟨-, hle, -⟩ := Spacing.judge_sub_of_excess h
    obtain ⟨top, gap, habove, htop, hgap, hblank, rfl⟩ := exists_blank_gap c.endsLine hle
    exact ⟨top, gap, habove, htop, hgap, hblank, .inr h⟩

/-- The fix for a member covers the text from the split to its end. -/
theorem exists_fixFor? (hsplits : c.Splits (rule.spacing.judge (blankRun c.above)) top gap)
    {stop : Nat} (hstop : c.offset ≤ stop) (text : Text) :
    ∃ f, fixFor? (.ofText source) c.line c.above.byteLength stop c.indent text
      (rule.spacing.judge (blankRun c.above)) = some f ∧ f.span = ⟨top.byteLength, stop⟩ := by
  have habove := congrArg byteLength hsplits.above_eq
  rw [byteLength_append] at habove
  rw [Cut.offset] at hstop
  rcases hsplits.outcome_eq with ⟨rfl, missing, h⟩ | h
  · rw [h]
    refine ⟨_, rfl, ?_⟩
    simp only [Fix.span, Fix.stop, byteLength_nil] at habove ⊢
    rw [habove, Nat.add_sub_cancel' (by omega)]
    rfl
  · have hline : c.line = top.count '\n' + gap.count '\n' := by simp [Cut.line, hsplits.above_eq]
    have hstart : (LineTable.ofText source).lineStart? (c.line - gap.count '\n') =
        some top.byteLength := by
      rw [hline, Nat.add_sub_cancel]
      exact LineTable.lineStart?_eq_some_iff.2 ⟨top, gap ++ (c.indent ++ c.rest),
        c.source_eq.trans (by simp [hsplits.above_eq]), hsplits.endsLine_top, rfl, rfl⟩
    rw [h, fixFor?, if_pos (by omega), hstart]
    refine ⟨_, rfl, ?_⟩
    simp only [Fix.span, Fix.stop, Span.mk.injEq, true_and]
    omega

/-- A checked member with spacing to mend is flagged. -/
theorem standing_of_splits (hchecked : m.IsChecked source c body)
    (hsplits : c.Splits (rule.spacing.judge (blankRun c.above)) top gap)
    (hreaches : c.Reaches m.stop) :
    (rule.examine source (.ofText source) m).standing = .flagged ⟨top.byteLength, m.stop⟩ := by
  obtain ⟨text, after, hrest, hstop⟩ := hreaches
  obtain ⟨f, hfix, hspan⟩ := exists_fixFor? hsplits (Nat.le_of_add_right_le hstop.ge) text
  have hslice : source.slice? c.offset m.stop = some text :=
    slice?_eq_some_iff.2 ⟨c.above ++ c.indent, after,
      c.source_eq.trans (by simp [hrest]), by simp [Cut.offset], hstop⟩
  have hunsatisfied : (rule.spacing.judge (blankRun c.above)).isSatisfied = false := by
    rcases hsplits.outcome_eq with ⟨-, missing, h⟩ | h <;> rw [h] <;> rfl
  rw [rule.examine_of_isChecked hchecked]
  simp [Verdict.standing, diagnosticFor?, hunsatisfied, hslice, hfix, hspan]

/-- A checked member with the required spacing is settled. -/
theorem standing_of_satisfied (hchecked : m.IsChecked source c body)
    (h : rule.spacing.judge (blankRun c.above) = .satisfied) :
    (rule.examine source (.ofText source) m).standing = .settled := by
  rw [rule.examine_of_isChecked hchecked, h]
  simp [Verdict.standing, diagnosticFor?, Outcome.isSatisfied]

theorem standing_of_not_isChecked (rule : Rule) (h : ∀ c body, ¬ m.IsChecked source c body) :
    (rule.examine source (.ofText source) m).standing = .exempt := by
  cases hverdict : rule.examine source (.ofText source) m with
  | measured line outcome diagnostic? =>
    obtain ⟨c, body, hchecked⟩ := rule.exists_isChecked_of_measured hverdict
    exact absurd hchecked (h c body)
  | _ => rfl

/-- Where there is a requirement, every complaint comes with a fix. -/
theorem isSome_fix?_of_diagnostic?
    (hvalid : ∀ present, rule.spacing.judge present ≠ .invalidOption) {d : Diagnostic}
    (h : (rule.examine source (.ofText source) m).diagnostic? = some d) : d.fix?.isSome = true := by
  obtain ⟨c, body, hchecked⟩ := rule.exists_isChecked_of_diagnostic? h
  rw [rule.examine_of_isChecked hchecked] at h
  obtain ⟨-, text, -, hfix, -⟩ := rule.eq_of_diagnosticFor? h
  exact Option.isSome_iff_ne_none.2 fun hnone => hvalid _ (hfix hnone)

/-- All that is known about a flagged member. -/
structure FlagsAt (rule : Rule) (m : Member) (c : Cut source) (body : Tree) (top gap : Text) :
    Prop where
  isChecked : m.IsChecked source c body
  splits : c.Splits (rule.spacing.judge (blankRun c.above)) top gap
  reaches : c.Reaches m.stop

theorem exists_flagsAt {span : Span}
    (h : (rule.examine source (.ofText source) m).standing = .flagged span) :
    ∃ (c : Cut source) (body : Tree) (top gap : Text), rule.FlagsAt m c body top gap ∧
      span = ⟨top.byteLength, m.stop⟩ := by
  have hspan := congrArg Standing.span? h
  rw [Verdict.span?_standing] at hspan
  obtain ⟨f, hf, rfl⟩ := Option.map_eq_some_iff.1 hspan
  obtain ⟨d, hd, hfix⟩ := Option.bind_eq_some_iff.1 hf
  obtain ⟨c, text, hflags⟩ := rule.exists_flags_of_diagnostic? hd
  obtain ⟨body, hchecked⟩ := hflags.isChecked
  obtain ⟨after, hrest⟩ := hflags.rest_eq
  obtain ⟨top, gap, new, hexchange, hcases⟩ := (hflags.mends f hfix).exists_exchanges
  have hsplits : c.Splits (rule.spacing.judge (blankRun c.above)) top gap := by
    refine ⟨hexchange.above_eq, hexchange.endsLine_top, hexchange.endsLine_gap,
      hexchange.isBlank_gap, ?_⟩
    rcases hcases with ⟨missing, houtcome, hgap, -⟩ | ⟨houtcome, -⟩
    · exact .inl ⟨hgap, missing, houtcome⟩
    · exact .inr houtcome
  have hreaches : c.Reaches m.stop := ⟨text, after, hrest, hflags.stop_eq⟩
  refine ⟨c, body, top, gap, ⟨hchecked, hsplits, hreaches⟩, ?_⟩
  rw [standing_of_splits hchecked hsplits hreaches] at h
  exact (Standing.flagged.inj h).symm

/-- A fix leaves the lines above a member as they are required to be. -/
theorem admits_of_exchanges {text new : Text} {f : Fix} (h : c.Exchanges text f top gap new)
    (hcases : (∃ missing, rule.spacing.judge (blankRun c.above) = .shortfall missing ∧ gap = [] ∧
        new = (LineTable.ofText source).newline.repeated missing) ∨
      rule.spacing.judge (blankRun c.above) = .excess (gap.count '\n') ∧ new = []) :
    rule.spacing.Admits (blankRun (top ++ new)) := by
  have habove := h.above_eq
  rw [← Spacing.judge_eq_satisfied_iff]
  rcases hcases with ⟨missing, houtcome, rfl, rfl⟩ | ⟨houtcome, rfl⟩
  · obtain ⟨-, -, hcount⟩ := (LineTable.ofText source).repeated_newline missing
    rw [List.append_nil] at habove
    rw [habove] at houtcome
    rw [blankRun_append_blank h.endsLine_top h.endsLine_new h.isBlank_new, hcount]
    exact (Spacing.judge_add_of_shortfall houtcome).2
  · obtain ⟨-, -, hsatisfied⟩ := Spacing.judge_sub_of_excess houtcome
    rw [habove, blankRun_append_blank h.endsLine_top h.endsLine_gap h.isBlank_gap,
      Nat.add_sub_cancel] at hsatisfied
    rwa [List.append_nil]

/-! ## Flagged members of a well-formed tree -/

variable {s u : Site} {other : Tree}

theorem body_eq_of_declares (hs : s.Declares source other)
    (h : s.toMember.IsChecked source c body) : body = other :=
  Option.some.inj (h.body_eq.symm.trans hs.isPlaced.head?_around)

/-- The anchor of a member is the start of a node of its column. -/
theorem exists_mem_column (h : s.toMember.IsChecked source c body) :
    ∃ a ∈ s.toMember.column, a.span.start = c.offset := by
  obtain ⟨a, left, hwalk⟩ := Walk.exists_walk source s.toMember.head s.toMember.aboveHead
  exact ⟨a, hwalk.mem_column, by rw [← hwalk.anchor_eq, h.anchor_eq]⟩

/-- The line of a checked member starts below the start of its class body. -/
theorem body_start_lt (hs : s.Declares source body) (h : s.toMember.IsChecked source c body)
    (habove : c.above = top ++ gap) (hgap : gap.isBlank = true) :
    body.span.start < top.byteLength := by
  obtain ⟨a, ha, hstart⟩ := exists_mem_column h
  have hmarked : body.kind.isMarked = true := by rw [hs.kind_body]; rfl
  have hsource : source = top ++ ((gap ++ c.indent) ++ c.rest) :=
    c.source_eq.trans (by simp [habove])
  have hblank : (gap ++ c.indent).isBlank = true := by simp [hgap, h.isBlank_indent]
  have hwell := hs.isPlaced.wellFormed
  rcases hwell.start_lt_or_le hmarked hsource hblank with hlt | hle
  · exact hlt
  · -- Otherwise the member would be on the line of the class header.
    exfalso
    have hoffset : (top ++ (gap ++ c.indent)).byteLength = c.offset := by
      simp [Cut.offset, habove, Nat.add_assoc]
    have heq : body.span.start = c.offset := by
      have := (hs.within ha).1
      omega
    have hline := h.header_lt
    rw [heq, c.lineOf_offset] at hline
    exact Nat.lt_irrefl _ hline

theorem FlagsAt.source_eq (h : rule.FlagsAt m c body top gap) :
    source = top ++ ((gap ++ c.indent) ++ c.rest) :=
  c.source_eq.trans (by simp [h.splits.above_eq])

theorem FlagsAt.offset_eq (h : rule.FlagsAt m c body top gap) :
    (top ++ (gap ++ c.indent)).byteLength = c.offset := by
  simp [Cut.offset, h.splits.above_eq, Nat.add_assoc]

theorem FlagsAt.isBlank (h : rule.FlagsAt m c body top gap) : (gap ++ c.indent).isBlank = true := by
  simp [h.splits.isBlank_gap, h.isChecked.isBlank_indent]

/-- What ends before the anchor of a flagged member ends before its fix starts. -/
theorem FlagsAt.stop_lt (h : rule.FlagsAt m c body top gap) {t : Tree} (ht : t.WellFormed source)
    (hmarked : t.kind.isMarked = true) (hle : t.span.stop ≤ c.offset) :
    t.span.stop < top.byteLength :=
  ht.stop_lt_of_endsLine hmarked h.source_eq h.splits.endsLine_top h.isBlank
    (by rw [h.offset_eq]; exact hle)

end Rule

/-- Two spans start at different places, and are apart or one inside the other. -/
def Span.IsLaminar (a b : Span) : Prop :=
  a.start ≠ b.start ∧
    (a.stop < b.start ∨ b.stop < a.start ∨ (a.start < b.start ∧ b.stop ≤ a.stop) ∨
      (b.start < a.start ∧ a.stop ≤ b.stop))

theorem Span.IsLaminar.symm {a b : Span} (h : a.IsLaminar b) : b.IsLaminar a := by
  unfold IsLaminar at *
  omega

namespace Rule

variable {rule : Rule} {source : Text} {s u : Site} {body other : Tree}

/-- The fix of a flagged member covers its anchor, and starts below its class header. -/
theorem FlagsAt.exists_anchor {c : Cut source} {top gap : Text} (hs : s.Declares source body)
    (h : rule.FlagsAt s.toMember c body top gap) :
    ∃ a ∈ s.toMember.column, a.span.start = c.offset ∧ body.span.start < top.byteLength ∧
      top.byteLength ≤ a.span.start ∧ a.span.start < s.node.span.stop := by
  obtain ⟨a, ha, hstart⟩ := exists_mem_column h.isChecked
  refine ⟨a, ha, hstart, body_start_lt hs h.isChecked h.splits.above_eq h.splits.isBlank_gap, ?_,
    hs.start_lt_node_stop ha⟩
  rw [hstart, ← h.offset_eq, byteLength_append]
  omega

variable {c d : Cut source} {top gap top' gap' : Text}

theorem FlagsAt.isLaminar_of_before (hs : s.Declares source body) (hu : u.Declares source other)
    (hsFlags : rule.FlagsAt s.toMember c body top gap)
    (huFlags : rule.FlagsAt u.toMember d other top' gap')
    (h : ∀ b ∈ u.toMember.column, s.node.span.stop ≤ b.span.start) :
    Span.IsLaminar ⟨top.byteLength, s.node.span.stop⟩ ⟨top'.byteLength, u.node.span.stop⟩ := by
  obtain ⟨a, ha, -, -, htop, hnode⟩ := hsFlags.exists_anchor hs
  obtain ⟨b, hb, hstart, -, -, -⟩ := huFlags.exists_anchor hu
  have hle := huFlags.stop_lt (hs.isPlaced.wellFormed_of_mem (List.mem_cons_self ..))
    (Site.isMarked_of_isDeclaration hs.isDeclaration) (hstart ▸ h b hb)
  simp only [Span.IsLaminar]
  omega

theorem FlagsAt.isLaminar_of_around (hs : s.Declares source body) (hu : u.Declares source other)
    (hsFlags : rule.FlagsAt s.toMember c body top gap)
    (huFlags : rule.FlagsAt u.toMember d other top' gap') {t : Tree} (ht : t ∈ s.row)
    (h : other.span.Within t.span) :
    Span.IsLaminar ⟨top.byteLength, s.node.span.stop⟩ ⟨top'.byteLength, u.node.span.stop⟩ := by
  obtain ⟨a, ha, hstart, -, htop, hnode⟩ := hsFlags.exists_anchor hs
  obtain ⟨b, hb, -, hother, htop', hnode'⟩ := huFlags.exists_anchor hu
  have huNode : u.node ∈ u.row := List.mem_cons_self ..
  have hwithin := (hu.isPlaced.within huNode).trans h
  have hrow := hs.isPlaced.isOrdered.stop_le_node ht
  have haStop := hs.start_lt_stop ha
  obtain ⟨hotherStart, -⟩ := h
  obtain ⟨-, huStop⟩ := hwithin
  simp only [Span.IsLaminar]
  rcases hs.isPlaced.isOrdered.eq_or_le (s.column_subset_row ha) ht with rfl | hle | hle
  · omega
  · omega
  · -- The other member is below something above the anchor.
    have hbefore := hsFlags.stop_lt (hu.isPlaced.wellFormed_of_mem huNode)
      (Site.isMarked_of_isDeclaration hu.isDeclaration) (by omega)
    omega

/-- The fixes of two members start at different places, and are apart or one inside the other. -/
theorem FlagsAt.isLaminar (hs : s.Declares source body) (hu : u.Declares source other)
    (hstands : s.Stands u body other) (hsFlags : rule.FlagsAt s.toMember c body top gap)
    (huFlags : rule.FlagsAt u.toMember d other top' gap') :
    Span.IsLaminar ⟨top.byteLength, s.node.span.stop⟩ ⟨top'.byteLength, u.node.span.stop⟩ := by
  cases hstands with
  | before h => exact isLaminar_of_before hs hu hsFlags huFlags h
  | behind h => exact (isLaminar_of_before hu hs huFlags hsFlags h).symm
  | around ht h => exact isLaminar_of_around hs hu hsFlags huFlags ht h
  | inside ht h => exact (isLaminar_of_around hu hs huFlags hsFlags ht h).symm

/-! ## The spans of all fixes -/

/-- What the verdicts on the members of a source come down to. -/
def standings (rule : Rule) (source : Text) (tree : Tree) : List Standing :=
  (rule.verdicts source tree).map Verdict.standing

/-- The spans of the fixes for a source. -/
def spans (rule : Rule) (source : Text) (tree : Tree) : List Span :=
  (rule.standings source tree).filterMap Standing.span?

variable {tree : Tree}

theorem standings_eq_map (rule : Rule) (source : Text) (tree : Tree) :
    rule.standings source tree = (tree.sites.filter Site.isClassMember).map fun s =>
      (rule.examine source (.ofText source) s.toMember).standing := by
  rw [standings, verdicts_eq_map, Tree.classMembers, List.map_map, List.map_map]
  rfl

theorem map_span_check (rule : Rule) (source : Text) (tree : Tree) :
    ((rule.check source tree).filterMap (·.fix?)).map Fix.span = rule.spans source tree := by
  rw [check, List.filterMap_filterMap, List.map_filterMap, spans, standings, List.filterMap_map]
  exact congrFun (congrArg List.filterMap (funext fun v => v.span?_standing.symm)) _

/-- The fixes of two flagged members that stand to each other in some way. -/
theorem isLaminar_of_stands (hs : s.Declares source body) (hu : u.Declares source other)
    (hstands : s.Stands u body other) {a b : Span}
    (ha : (rule.examine source (.ofText source) s.toMember).standing = .flagged a)
    (hb : (rule.examine source (.ofText source) u.toMember).standing = .flagged b) :
    a.IsLaminar b := by
  obtain ⟨c, body', top, gap, hsFlags, rfl⟩ := exists_flagsAt ha
  obtain ⟨d, other', top', gap', huFlags, rfl⟩ := exists_flagsAt hb
  obtain rfl := body_eq_of_declares hs hsFlags.isChecked
  obtain rfl := body_eq_of_declares hu huFlags.isChecked
  exact hsFlags.isLaminar hs hu hstands huFlags

/-- A span of a fix is not empty. -/
theorem start_lt_stop_of_flagged (hs : s.Declares source body) {a : Span}
    (ha : (rule.examine source (.ofText source) s.toMember).standing = .flagged a) :
    a.start < a.stop := by
  obtain ⟨c, body', top, gap, hflags, rfl⟩ := exists_flagsAt ha
  obtain rfl := body_eq_of_declares hs hflags.isChecked
  obtain ⟨b, -, -, -, htop, hstop⟩ := hflags.exists_anchor hs
  exact Nat.lt_of_le_of_lt htop hstop

theorem span?_eq_some {standing : Standing} {span : Span} (h : standing.span? = some span) :
    standing = .flagged span := by
  cases standing with
  | flagged a => exact congrArg Standing.flagged (Option.some.inj h)
  | _ => simp [Standing.span?] at h

theorem start_lt_stop_of_mem_spans (htree : tree.WellFormed source) {span : Span}
    (h : span ∈ rule.spans source tree) : span.start < span.stop := by
  rw [spans, standings_eq_map, List.filterMap_map] at h
  obtain ⟨s, hs, hspan⟩ := List.mem_filterMap.1 h
  obtain ⟨hmem, hclass⟩ := List.mem_filter.1 hs
  obtain ⟨body, hdeclares⟩ := Site.exists_declares htree hmem hclass
  exact start_lt_stop_of_flagged hdeclares (span?_eq_some hspan)

/-- The fixes for a source with a well-formed tree start at different places, and any two of them are
    apart or one inside the other. -/
theorem pairwise_isLaminar (htree : tree.WellFormed source) :
    (rule.spans source tree).Pairwise Span.IsLaminar := by
  rw [spans, standings_eq_map, List.filterMap_map, List.pairwise_filterMap]
  refine (htree.pairwise_sites.sublist List.filter_sublist).imp_of_mem ?_
  intro s u hs hu hprecedes a ha b hb
  obtain ⟨hs, hsClass⟩ := List.mem_filter.1 hs
  obtain ⟨hu, huClass⟩ := List.mem_filter.1 hu
  obtain ⟨body, hsDeclares⟩ := Site.exists_declares htree hs hsClass
  obtain ⟨other, huDeclares⟩ := Site.exists_declares htree hu huClass
  exact isLaminar_of_stands hsDeclares huDeclares
    (hsDeclares.stands_of_precedes huDeclares hprecedes) (span?_eq_some ha) (span?_eq_some hb)

end Rule

end ClassSpacing
