import ClassSpacing.Proofs.Fix.Outermost

/-!
# The order of the complaints

The members of a source are looked at in the order of their declarations, but a complaint starts on
the line of the anchor, above the declaration. What stands between the two are decorators and
comments, and these are passed before the declaration is: members inside of them come first in the
list and start later in the text. `Rule.lint_in_order_iff` says that nothing else can spoil the order.
-/

namespace ClassSpacing

open Text

/-! ## Cuts in order -/

namespace Cut

variable {source : Text} {c d : Cut source}

theorem line_le_of_offset_le (h : c.offset ≤ d.offset) : c.line ≤ d.line := by
  rw [← c.lineOf_offset, ← d.lineOf_offset]
  exact LineTable.lineOf_mono source h

/-- Lines start in the order in which they are numbered. -/
theorem above_le_iff : c.above.byteLength ≤ d.above.byteLength ↔ c.line ≤ d.line := by
  constructor
  · intro h
    have hmono := LineTable.lineOf_mono source h
    rwa [LineTable.lineOf_of_lineStart? c.lineStart?_line,
      LineTable.lineOf_of_lineStart? d.lineStart?_line] at hmono
  · intro h
    exact LineTable.le_of_lineStart? h c.lineStart?_line d.lineStart?_line

theorem above_lt_iff : c.above.byteLength < d.above.byteLength ↔ c.line < d.line := by
  rw [← Nat.not_le, ← Nat.not_le, above_le_iff]

/-- What ends before a place that starts its line is blank, if it starts on that line. -/
theorem isBlank_of_line_eq {text after : Text} (hline : c.line = d.line)
    (hrest : c.rest = text ++ after) (hle : c.offset + text.byteLength ≤ d.offset)
    (hblank : d.indent.isBlank = true) : (c.indent ++ text).isBlank = true := by
  have habove : c.above.byteLength = d.above.byteLength :=
    Nat.le_antisymm (above_le_iff.2 hline.le) (above_le_iff.2 hline.ge)
  have hsource : c.above ++ ((c.indent ++ text) ++ after) = d.above ++ (d.indent ++ d.rest) := by
    rw [List.append_assoc, ← hrest, ← c.source_eq, ← d.source_eq]
  obtain ⟨-, hbehind⟩ := append_inj_of_byteLength hsource habove
  have hlength : (c.indent ++ text).byteLength ≤ d.indent.byteLength := by
    simp only [offset] at hle
    rw [byteLength_append]
    omega
  obtain ⟨x, hindent, -⟩ := exists_append_of_byteLength_le hbehind hlength
  rw [hindent, isBlank_append, Bool.and_eq_true] at hblank
  exact hblank.1

end Cut

/-! ## Two members of an ordered tree -/

/-- Whether a member is declared inside a decorator or a comment of another one: the class body
    around it lies in a node between the anchor and the declaration of the other one. -/
def Site.InLeadOf (source : Text) (s u : Site) : Prop :=
  ∃ t ∈ u.before, (t.kind = .decorator ∨ t.kind = .comment) ∧
    u.toMember.anchor source (.ofText source) ≤ t.span.start ∧
    ∃ body ∈ s.around.head?, body.span.Within t.span

namespace Member.IsChecked

variable {source : Text} {s u : Site} {c d : Cut source} {body other : Tree}

/-- A checked member is a child of its class body. -/
theorem isChild {root : Tree} (hs : s ∈ root.sites) (h : s.toMember.IsChecked source c body) :
    body ∈ root.nodes ∧ s.IsChild body := by
  have hbody : s.around.head? = some body := h.body_eq
  rcases Tree.eq_or_isChild_of_mem_sitesIn hs with rfl | ⟨parent, hparent, hchild⟩
  · simp at hbody
  · obtain rfl := Option.some.inj (hchild.head?_around.symm.trans hbody)
    exact ⟨hparent, hchild⟩

/-- The anchor of a checked member does not come behind its declaration. -/
theorem offset_le (hordered : s.IsOrdered) (h : s.toMember.IsChecked source c body) :
    c.offset ≤ s.node.span.start ∧ c.offset ≤ s.node.span.stop := by
  obtain ⟨a, ha, hstart⟩ := Rule.exists_mem_column h
  have hle := hordered.start_le_node (s.column_subset_row ha)
  have hnode := hordered.start_le_stop s.node List.mem_cons_self
  rw [hstart] at hle
  exact ⟨hle, Nat.le_trans hle hnode⟩

/-- A checked member is anchored below the lines of all places up to the start of its class body. -/
theorem lineOf_lt (h : s.toMember.IsChecked source c body) {place : Nat}
    (hle : place ≤ body.span.start) : (LineTable.ofText source).lineOf place < c.line :=
  Nat.lt_of_le_of_lt (LineTable.lineOf_mono source hle) h.header_lt

/-- A member inside a decorator or a comment of another one is anchored below it. -/
theorem line_lt_of_inLeadOf (hs : s.toMember.IsChecked source c body)
    (hu : u.toMember.IsChecked source d other) (h : s.InLeadOf source u) : d.line < c.line := by
  obtain ⟨t, -, -, hanchor, body', hbody, hwithin⟩ := h
  obtain rfl : body' = body := Option.some.inj (hbody.symm.trans hs.body_eq)
  rw [hu.anchor_eq] at hanchor
  rw [← d.lineOf_offset]
  exact hs.lineOf_lt (Nat.le_trans hanchor hwithin.1)

/-- What stands before a declaration ends before the anchor, or it is a decorator or a comment behind
    it. -/
theorem stop_le_or_lead (hordered : u.IsOrdered) (hu : u.toMember.IsChecked source d other)
    {a : Tree} (ha : a ∈ u.before) :
    a.span.stop ≤ d.offset ∨
      (a.kind = .decorator ∨ a.kind = .comment) ∧ d.offset ≤ a.span.start := by
  obtain ⟨r, hr, hstart⟩ := Rule.exists_mem_column hu
  obtain ⟨pre, post, hbefore, hpre, hsuffix⟩ := u.exists_column
  have hrow : u.row = (u.node :: pre) ++ post := by rw [Site.row, hbefore, List.cons_append]
  rw [hbefore] at ha
  rcases List.mem_append.1 ha with ha | ha
  · have haRow : a ∈ u.row := by
      rw [hrow]
      exact List.mem_append_left _ (List.mem_cons_of_mem _ ha)
    have hrRow := u.column_subset_row hr
    rcases hordered.eq_or_le hrRow haRow with rfl | hle | hle
    · exact .inr ⟨hpre r ha, hstart.ge⟩
    · have hspan := hordered.start_le_stop r hrRow
      exact .inr ⟨hpre a ha, by omega⟩
    · exact .inl (hstart ▸ hle)
  · -- The walk to the anchor does not get as far as this.
    have hpairwise := hordered.pairwise
    rw [hrow, List.pairwise_append] at hpairwise
    exact .inl (hstart ▸ hpairwise.2.2 r (hsuffix.subset hr) a ha)

/-- The earlier of two checked members is anchored on an earlier line, or it ends before the anchor of
    the later one, or it is declared inside a decorator or a comment of that one. -/
theorem order_of_earlier {root : Tree} (hroot : root.IsOrdered) (hs : s ∈ root.sites)
    (hu : u ∈ root.sites) (hdeclares : s.isDeclaration = true) (h : s.Earlier root u)
    (hsChecked : s.toMember.IsChecked source c body)
    (huChecked : u.toMember.IsChecked source d other) :
    c.line < d.line ∨ s.node.span.stop ≤ d.offset ∨ s.InLeadOf source u := by
  obtain ⟨hbody, hsChild⟩ := hsChecked.isChild hs
  obtain ⟨hother, huChild⟩ := huChecked.isChild hu
  obtain ⟨hstart, hstop⟩ := hsChecked.offset_le ((hroot.of_mem_nodes hbody).site hsChild)
  cases h with
  | below hparent hchild =>
    left
    obtain rfl := hchild.parent_unique huChild
    have hnode := hroot.of_mem_nodes (Tree.node_mem_nodes hs)
    rw [← c.lineOf_offset]
    exact huChecked.lineOf_lt (Nat.le_trans hstart (hnode.within hparent).1)
  | @apart parent a b before between around hparent hchild hsa hub =>
    have hrow := (hroot.of_mem_nodes hparent).site hchild
    have ha : a ∈ between ++ a :: before := by simp
    have haOrdered : a.IsOrdered := hroot.of_mem_nodes (Tree.mem_nodes_trans hparent
      (Tree.mem_nodes_of_child (hchild.mem_children (List.mem_cons_of_mem _ ha))
        (Tree.mem_nodes_self a)))
    have hbOrdered : b.IsOrdered := hroot.of_mem_nodes (Tree.mem_nodes_trans hparent
      (Tree.mem_nodes_of_child (hchild.mem_children List.mem_cons_self) (Tree.mem_nodes_self b)))
    have hsa' := (haOrdered.within (Tree.node_mem_nodes hsa)).2
    rcases Tree.eq_or_isChild_of_mem_sitesIn hub with rfl | ⟨q, hq, huChild'⟩
    · -- The later member is the sibling `b`. The anchor is above `a`, or `a` ends before it.
      right
      rcases huChecked.stop_le_or_lead hrow ha with hle | ⟨hkind, hle⟩
      · exact .inl (Nat.le_trans hsa' hle)
      · right
        rcases Tree.eq_or_isChild_of_mem_sitesIn hsa with rfl | ⟨p, hp, hsChild'⟩
        · rcases hkind with hkind | hkind <;> simp [Site.isDeclaration, hkind] at hdeclares
        · obtain rfl := hsChild'.parent_unique hsChild
          refine ⟨a, ha, hkind, ?_, p, hsChild.head?_around, haOrdered.within hp⟩
          rw [huChecked.anchor_eq]
          exact hle
    · left
      obtain rfl := huChild'.parent_unique huChild
      have hle : a.span.stop ≤ b.span.start := (List.pairwise_cons.1 hrow.pairwise).1 a ha
      have hqb := (hbOrdered.within hq).1
      rw [← c.lineOf_offset]
      exact huChecked.lineOf_lt (by omega)

end Member.IsChecked

/-! ## All complaints -/

namespace Rule

variable {rule : Rule} {source : Text}

/-- The sites of the members that the rule complains about. -/
def flaggedSites (rule : Rule) (source : Text) (tree : Tree) : List Site :=
  tree.sites.filter fun s =>
    s.isClassMember && (rule.examine source (.ofText source) s.toMember).diagnostic?.isSome

theorem check_eq_filterMap (rule : Rule) (source : Text) (tree : Tree) :
    rule.check source tree = (rule.flaggedSites source tree).filterMap fun s =>
      (rule.examine source (.ofText source) s.toMember).diagnostic? := by
  rw [check, verdicts_eq_map, Tree.classMembers, List.filterMap_map, List.filterMap_map,
    flaggedSites]
  induction tree.sites with
  | nil => rfl
  | cons s rest ih =>
    by_cases hclass : s.isClassMember = true
    · cases hd : (rule.examine source (.ofText source) s.toMember).diagnostic? with
      | none => simpa [hclass, hd, Function.comp_def] using ih
      | some d => simpa [hclass, hd, Function.comp_def] using ih
    · simpa [hclass] using ih

/-- What is known about two members with complaints, one earlier than the other. -/
theorem order_of_flagged {tree : Tree} (htree : tree.IsOrdered) {s u : Site}
    (hs : s ∈ rule.flaggedSites source tree) (hu : u ∈ rule.flaggedSites source tree)
    (hearlier : s.Earlier tree u) {d e : Diagnostic}
    (hd : (rule.examine source (.ofText source) s.toMember).diagnostic? = some d)
    (he : (rule.examine source (.ofText source) u.toMember).diagnostic? = some e) :
    (s.InLeadOf source u → e.offset < d.offset) ∧
      (¬ s.InLeadOf source u → d.offset < e.offset ∨
        d.offset = e.offset ∧ ∃ text, d.snippet? source = some text ∧ text.isBlank = true) := by
  obtain ⟨c, text, hsFlags⟩ := rule.exists_flags_of_diagnostic? hd
  obtain ⟨c', text', huFlags⟩ := rule.exists_flags_of_diagnostic? he
  obtain ⟨body, hsChecked⟩ := hsFlags.isChecked
  obtain ⟨other, huChecked⟩ := huFlags.isChecked
  obtain ⟨hsMem, hsClass⟩ := List.mem_filter.1 hs
  obtain ⟨huMem, -⟩ := List.mem_filter.1 hu
  have hdeclares : s.isDeclaration = true := by
    simp only [Site.isClassMember, Bool.and_eq_true] at hsClass
    exact hsClass.1.1.1
  rw [hsFlags.offset_eq, huFlags.offset_eq]
  constructor
  · intro hlead
    exact Cut.above_lt_iff.2 (hsChecked.line_lt_of_inLeadOf huChecked hlead)
  · intro hlead
    rcases hsChecked.order_of_earlier htree hsMem huMem hdeclares hearlier huChecked with
      hlt | hle | hlead'
    · exact .inl (Cut.above_lt_iff.2 hlt)
    · have hstop : c.offset + text.byteLength ≤ c'.offset := hsFlags.stop_eq ▸ hle
      have hline := Cut.line_le_of_offset_le (Nat.le_of_add_right_le hstop)
      rcases Nat.lt_or_eq_of_le hline with hlt | heq
      · exact .inl (Cut.above_lt_iff.2 hlt)
      · obtain ⟨after, hrest⟩ := hsFlags.rest_eq
        refine .inr ⟨Nat.le_antisymm (Cut.above_le_iff.2 heq.le) (Cut.above_le_iff.2 heq.ge), _,
          hsFlags.snippet?_eq, ?_⟩
        exact Cut.isBlank_of_line_eq heq hrest hstop huChecked.isBlank_indent
    · exact absurd hlead' hlead

/-- The complaints about a source with an ordered tree come in the order of their starts exactly if
    none of the members complained about is declared inside a decorator or a comment of a later one.
    Unless a complaint is about a member that says nothing, they then start on different lines. -/
theorem lint_in_order_iff {read : Reader} {dialect : Dialect} {diagnostics : List Diagnostic}
    (htree : (read dialect source).IsOrdered)
    (h : rule.lint read dialect source = .ok diagnostics) :
    let clear := (rule.flaggedSites source (read dialect source)).Pairwise fun s u =>
      ¬ s.InLeadOf source u
    (diagnostics.Pairwise (·.offset ≤ ·.offset) ↔ clear) ∧
      ((∀ d ∈ diagnostics, ∀ text ∈ d.snippet? source, text.isBlank = false) →
        (diagnostics.Pairwise (·.offset < ·.offset) ↔ clear)) := by
  intro clear
  obtain ⟨-, rfl⟩ := lint_eq_ok_iff.1 h
  have hearlier : (rule.flaggedSites source (read dialect source)).Pairwise
      (Site.Earlier (read dialect source)) :=
    (Tree.pairwise_sites _).sublist List.filter_sublist
  have hflagged : ∀ s ∈ rule.flaggedSites source (read dialect source),
      ∃ d, (rule.examine source (.ofText source) s.toMember).diagnostic? = some d := by
    intro s hs
    have hsome := (List.mem_filter.1 hs).2
    rw [Bool.and_eq_true] at hsome
    exact Option.isSome_iff_exists.1 hsome.2
  -- If some list of complaints is in order, even if loosely, then none comes too late.
  have hclear : (rule.check source (read dialect source)).Pairwise (·.offset ≤ ·.offset) →
      clear := by
    intro hle
    rw [check_eq_filterMap, List.pairwise_filterMap] at hle
    refine (hearlier.and hle).imp_of_mem ?_
    rintro s u hs hu ⟨hbefore, hle⟩ hlead
    obtain ⟨d, hd⟩ := hflagged s hs
    obtain ⟨e, he⟩ := hflagged u hu
    exact Nat.not_lt.2 (hle d hd e he) ((order_of_flagged htree hs hu hbefore hd he).1 hlead)
  refine ⟨⟨hclear, ?_⟩, fun hspeaks => ⟨fun hlt => hclear (hlt.imp Nat.le_of_lt), ?_⟩⟩
  · intro hlead
    rw [check_eq_filterMap, List.pairwise_filterMap]
    refine (hearlier.and hlead).imp_of_mem ?_
    rintro s u hs hu ⟨hbefore, hlead⟩ d hd e he
    rcases (order_of_flagged htree hs hu hbefore hd he).2 hlead with hlt | ⟨heq, -⟩
    · exact Nat.le_of_lt hlt
    · exact Nat.le_of_eq heq
  · intro hlead
    rw [check_eq_filterMap, List.pairwise_filterMap]
    refine (hearlier.and hlead).imp_of_mem ?_
    rintro s u hs hu ⟨hbefore, hlead⟩ d hd e he
    rcases (order_of_flagged htree hs hu hbefore hd he).2 hlead with hlt | ⟨-, text, htext, hblank⟩
    · exact hlt
    · have hmem : d ∈ rule.check source (read dialect source) := by
        rw [check_eq_filterMap]
        exact List.mem_filterMap.2 ⟨s, hs, hd⟩
      rw [hspeaks d hmem text htext] at hblank
      cases hblank

end Rule

namespace Decorated

/-- The method inside the decorator is complained about before the decorated method, which starts
    above it. -/
theorem lint_out_of_order :
    (read .typeScript source).IsOrdered ∧
      ∃ diagnostics, Rule.lint {} read .typeScript source = .ok diagnostics ∧
        diagnostics.map (·.offset) = [60, 19] ∧
        ¬ (Rule.flaggedSites {} source (read .typeScript source)).Pairwise fun s u =>
          ¬ s.InLeadOf source u := by
  have htree := (Reader.wellFormed_ofLetters fits_tree .typeScript source).isOrdered
  have hlint : Rule.lint {} read .typeScript source = .ok _ :=
    Rule.lint_eq_ok_iff.2 ⟨by decide, rfl⟩
  have hoffsets : (Rule.check {} source (read .typeScript source)).map (·.offset) = [60, 19] := by
    decide +kernel
  refine ⟨htree, _, hlint, hoffsets, fun hclear => ?_⟩
  have hle := (Rule.lint_in_order_iff htree hlint).1.2 hclear
  have hpairwise : ((Rule.check {} source (read .typeScript source)).map (·.offset)).Pairwise
      (· ≤ ·) := List.pairwise_map.2 hle
  rw [hoffsets] at hpairwise
  simp at hpairwise

end Decorated

end ClassSpacing
