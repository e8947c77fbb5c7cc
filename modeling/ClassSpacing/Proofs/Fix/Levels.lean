import ClassSpacing.Proofs.Fix.Nesting
import ClassSpacing.Proofs.Fix.Pass
import ClassSpacing.Proofs.Rule.Mend
import ClassSpacing.Proofs.Rule.Steady

/-!
# One pass, one level

The fixes of a pass are changes of the blank lines above the anchors of members, made from the last to
the first. `Rule.Mended` says what becomes of a source on the way: nodes are moved, the members whose
fixes were made are settled, and all others stand as before. Hence a pass over a source that a reader
reads steadily takes the outermost fixes away and leaves the others as they were.
-/

namespace ClassSpacing

open Text

/-- The site of a member of a class declaration declares a member with the same anchor. -/
theorem Site.exists_mem_members {tree : Tree} {s : Site} (hs : s ∈ tree.sites)
    (hclass : s.isClassMember = true) (source : Text) :
    ∃ m ∈ tree.members source, m.container = .classBody ∧
      m.anchor source (.ofText source) = s.toMember.anchor source (.ofText source) := by
  simp only [isClassMember, Bool.and_eq_true, beq_iff_eq] at hclass
  refine ⟨{ s.toMember with kind := s.memberKind source }, ?_, hclass.2, rfl⟩
  refine List.mem_filterMap.2 ⟨s, hs, ?_⟩
  rw [member?, if_pos (by simpa using hclass.1)]
  rfl

/-! ## Respacing a flagged member -/

namespace Rule

variable {rule : Rule} {source : Text} {s : Site} {body : Tree} {c : Cut source} {top gap : Text}

theorem FlagsAt.isSolid (hs : s.Declares source body)
    (h : rule.FlagsAt s.toMember c body top gap) : c.IsSolid := by
  obtain ⟨a, ha, hstart, -⟩ := h.exists_anchor hs
  exact ((hs.wellFormed ha).isSolid (Site.isMarked_of_mem_column hs.isDeclaration ha)).cut hstart.symm

/-- The blank lines above the anchor of a flagged member can be changed. -/
theorem FlagsAt.exists_respacing (hs : s.Declares source body)
    (h : rule.FlagsAt s.toMember c body top gap) {new : Text} (hnew : new.EndsLine)
    (hblank : new.isBlank = true) :
    ∃ r : Respacing source (top ++ (new ++ (c.indent ++ c.rest))),
      r.top = top ∧ r.gap = gap ∧ r.new = new ∧ r.anchor = c.offset := by
  obtain ⟨e, rest, hrest, hspace⟩ := h.isSolid hs
  have htop := body_start_lt hs h.isChecked h.splits.above_eq h.splits.isBlank_gap
  refine ⟨{
    top, gap, new, indent := c.indent, first := e, rest
    source_eq := h.source_eq.trans (by simp [hrest])
    target_eq := by rw [hrest]
    top_ne := by rintro rfl; simp at htop
    endsLine_top := h.splits.endsLine_top
    endsLine_gap := h.splits.endsLine_gap
    isBlank_gap := h.splits.isBlank_gap
    endsLine_new := hnew
    isBlank_new := hblank
    sameLine := c.sameLine
    isBlank_indent := h.isChecked.isBlank_indent
    not_isSpace := hspace }, rfl, rfl, rfl, h.offset_eq⟩

/-- The text up to the first character behind the blank lines tells what a flagged member with a given
    start of its fix looks like. -/
theorem FlagsAt.eq_of_front (hs : s.Declares source body)
    (h : rule.FlagsAt s.toMember c body top gap) {front lines indent rest : Text} {e : Char}
    (hsource : source = front ++ (lines ++ (indent ++ e :: rest)))
    (hlen : top.byteLength = front.byteLength) (hlines : lines.EndsLine)
    (hlinesBlank : lines.isBlank = true) (hindent : '\n' ∉ indent)
    (hindentBlank : indent.isBlank = true) (he : isSpace e = false) :
    top = front ∧ c.indent = indent ∧ c.rest = e :: rest := by
  obtain ⟨d, tail, hrest, hd⟩ := h.isSolid hs
  obtain ⟨htop, hbehind⟩ := append_inj_of_byteLength (h.source_eq.symm.trans hsource) hlen
  rw [hrest, ← List.append_assoc] at hbehind
  obtain ⟨hblank, hsolid⟩ := blank_append_inj hbehind h.isBlank
    (by simp [hlinesBlank, hindentBlank]) hd he
  obtain ⟨-, hindentEq⟩ := endsLine_append_inj hblank h.splits.endsLine_gap hlines c.sameLine hindent
  exact ⟨htop, hindentEq, hrest.trans hsolid⟩

/-! ## Mended texts -/

/-- What a source has become where the members whose fixes cover the spans `mended` are mended. -/
structure Mended (rule : Rule) (read : Reader) (dialect : Dialect) (source text : Text)
    (mended : List Span) (move : Nat → Nat) : Prop where
  respaced : read.Respaced dialect source text
  tree_eq : read dialect text = (read dialect source).shift move
  ne_nil : source ≠ [] → text ≠ []
  monotone : Monotone move
  /-- Nothing moves before the first of the spans. -/
  move_eq : ∀ {offset : Nat}, (∀ span ∈ mended, offset < span.start) → move offset = offset
  standing_eq : ∀ {s : Site}, s ∈ (read dialect source).sites → s.isClassMember = true →
    (rule.examine text (.ofText text) (s.toMember.shift move)).standing =
      (rule.examine source (.ofText source) s.toMember).standing.mend mended move

namespace Mended

variable {read : Reader} {dialect : Dialect} {text : Text} {mended : List Span} {move : Nat → Nat}

theorem refl (rule : Rule) (read : Reader) (dialect : Dialect) (source : Text) :
    rule.Mended read dialect source source [] id where
  respaced := .refl
  tree_eq := (Tree.shift_id _).symm
  ne_nil h := h
  monotone := monotone_id
  move_eq _ := rfl
  standing_eq := by
    intro s _ _
    rw [Member.shift_id]
    cases (rule.examine source (.ofText source) s.toMember).standing <;> rfl

theorem map_eq_self (h : rule.Mended read dialect source text mended move) {span : Span}
    (hpos : span.start < span.stop) (hlt : ∀ t ∈ mended, span.stop < t.start) :
    span.map move = span := by
  have hstart := h.move_eq fun t ht => Nat.lt_trans hpos (hlt t ht)
  have hstop := h.move_eq hlt
  simp only [Span.map, hstart, hstop]

/-- A member before all that are mended is still flagged as it was. -/
theorem standing_of_lt (h : rule.Mended read dialect source text mended move)
    (hs : s ∈ (read dialect source).sites) (hclass : s.isClassMember = true) {span : Span}
    (hstanding : (rule.examine source (.ofText source) s.toMember).standing = .flagged span)
    (hpos : span.start < span.stop) (hlt : ∀ t ∈ mended, span.stop < t.start) :
    (rule.examine text (.ofText text) (s.shift move).toMember).standing = .flagged span := by
  have hnot : span ∉ mended := by
    intro hmem
    have := hlt span hmem
    omega
  rw [Site.toMember_shift, h.standing_eq hs hclass, hstanding, Standing.mend, if_neg hnot,
    h.map_eq_self hpos hlt]

/-- Only a place at the start of a span that is not moved is moved there. -/
theorem eq_of_move_eq (h : rule.Mended read dialect source text mended move) {span : Span}
    (hpos : span.start < span.stop) (hlt : ∀ t ∈ mended, span.stop < t.start) {offset : Nat}
    (heq : move offset = span.start) : offset = span.start := by
  by_cases hle : offset ≤ span.stop
  · rw [← heq]
    exact (h.move_eq fun t ht => Nat.lt_of_le_of_lt hle (hlt t ht)).symm
  · have hmono := h.monotone (Nat.le_of_not_le hle)
    rw [h.move_eq hlt] at hmono
    omega

/-- Only the fix of a member before all that are mended is moved to where that fix is. -/
theorem map_eq_iff (h : rule.Mended read dialect source text mended move)
    (htree : (read dialect source).WellFormed source) (hs : s ∈ (read dialect source).sites)
    (hclass : s.isClassMember = true) {span : Span}
    (hstanding : (rule.examine source (.ofText source) s.toMember).standing = .flagged span)
    (hpos : span.start < span.stop) (hlt : ∀ t ∈ mended, span.stop < t.start) {v : Site}
    (hv : v ∈ (read dialect source).sites) (hvClass : v.isClassMember = true) {a : Span}
    (ha : (rule.examine source (.ofText source) v.toMember).standing = .flagged a) :
    a.map move = span ↔ a = span := by
  constructor
  · intro heq
    have hstart := h.eq_of_move_eq hpos hlt (congrArg Span.start heq)
    obtain ⟨other, hsDeclares⟩ := Site.exists_declares htree hs hclass
    obtain ⟨other', hvDeclares⟩ := Site.exists_declares htree hv hvClass
    rcases hvDeclares.eq_or_stands htree hv hs hsDeclares with rfl | hstands
    · exact Standing.flagged.inj (ha.symm.trans hstanding)
    · exact absurd hstart
        (isLaminar_of_stands hvDeclares hsDeclares hstands ha hstanding).1
  · rintro rfl
    exact h.map_eq_self hpos hlt

/-- Mending one more member, before all others. -/
theorem step (hsteady : read.IsSteady dialect source) (hspacing : rule.spacing.Separates)
    (h : rule.Mended read dialect source text mended move) (hs : s ∈ (read dialect source).sites)
    (hclass : s.isClassMember = true) {span : Span}
    (hstanding : (rule.examine source (.ofText source) s.toMember).standing = .flagged span)
    (hpos : span.start < span.stop) (hlt : ∀ t ∈ mended, span.stop < t.start)
    {body : Tree} {c : Cut text} {new : Text} (hbody : (s.shift move).Declares text body)
    (hflags : rule.FlagsAt (s.shift move).toMember c body top gap)
    (hspan : span = ⟨top.byteLength, (s.shift move).toMember.stop⟩) (hnew : new.EndsLine)
    (hblank : new.isBlank = true) (hadmits : rule.spacing.Admits (blankRun (top ++ new))) :
    ∃ next, rule.Mended read dialect source (top ++ (new ++ (c.indent ++ c.rest)))
      (span :: mended) next := by
  obtain ⟨r, htop, hgap, hrnew, hanchor⟩ := hflags.exists_respacing hbody hnew hblank
  have hflags' : rule.FlagsAt (s.shift move).toMember c body r.top r.gap := by
    rw [htop, hgap]
    exact hflags
  have hadmits' : rule.spacing.Admits (blankRun (r.top ++ r.new)) := by
    rw [htop, hrnew]
    exact hadmits
  have hmem : ∀ {v : Site}, v ∈ (read dialect source).sites →
      v.shift move ∈ (read dialect text).sites := by
    intro v hv
    rw [h.tree_eq, Tree.sites_shift]
    exact List.mem_map_of_mem hv
  obtain ⟨m, hm, hmClass, hmAnchor⟩ := Site.exists_mem_members (hmem hs)
    (by rw [Site.isClassMember_shift, hclass]) text
  rw [hflags.isChecked.anchor_eq, ← hanchor] at hmAnchor
  have hrespaced := Reader.Respaced.step h.respaced r hm hmClass hmAnchor
  have hread := hsteady.shift_eq h.respaced r hm hmClass hmAnchor
  have hwell := hsteady.wellFormed h.respaced
  have hwell' := hsteady.wellFormed hrespaced
  rw [hread] at hwell'
  refine ⟨r.move ∘ move, hrespaced, ?_, ?_, r.monotone_move.comp h.monotone, ?_, ?_⟩
  · rw [hread, h.tree_eq, Tree.shift_shift]
  · intro _
    simp [← htop, r.top_ne]
  · intro offset hoffset
    have hstart := hoffset span (List.mem_cons_self ..)
    rw [hspan, ← htop] at hstart
    rw [Function.comp_apply, h.move_eq fun t ht => hoffset t (List.mem_cons_of_mem _ ht),
      r.move_of_lt hstart]
  · -- Of the members as they stand in `text`, this change mends one and moves the others.
    intro v hv hvClass
    have hmended := standing_of_mended hspacing.judge_ne hwell r hwell' (hmem hs) hbody hflags'
      hanchor (hspacing.pos_of_admits hadmits') (Spacing.judge_eq_satisfied_iff.2 hadmits') (hmem hv)
      (by rw [Site.isClassMember_shift, hvClass])
    rw [Site.toMember_shift, Member.shift_shift, h.standing_eq hv hvClass, htop, ← hspan] at hmended
    rw [hmended]
    exact Standing.mend_mend fun a ha => h.map_eq_iff (hsteady.wellFormed .refl) hs hclass hstanding
      hpos hlt hv hvClass ha

end Mended

/-! ## All fixes of a pass -/

variable {read : Reader} {dialect : Dialect} {tree : Tree} {f : Fix}

/-- A fix as what it does to the blank lines above the first character of a member. -/
structure Repairs (rule : Rule) (source : Text) (f : Fix) (c : Cut source) (e : Char)
    (found after top gap new : Text) : Prop where
  rest_eq : c.rest = (e :: found) ++ after
  not_isSpace : isSpace e = false
  isBlank_indent : c.indent.isBlank = true
  exchanges : c.Exchanges (e :: found) f top gap new
  admits : rule.spacing.Admits (blankRun (top ++ new))

theorem Repairs.source_eq {c : Cut source} {e : Char} {found after top gap new : Text}
    (h : rule.Repairs source f c e found after top gap new) :
    source = top ++ ((gap ++ (c.indent ++ e :: found)) ++ after) :=
  h.exchanges.source_eq h.rest_eq

/-- The fix for a flagged member repairs its spacing. -/
theorem exists_repairs (hs : s.Declares source body) {d : Diagnostic} (hf : f ∈ d.fix?)
    (hd : (rule.examine source (.ofText source) s.toMember).diagnostic? = some d) :
    ∃ c e found after top gap new, rule.Repairs source f c e found after top gap new := by
  obtain ⟨c, found, hflags⟩ := rule.exists_flags_of_diagnostic? hd
  obtain ⟨top, gap, new, hexchange, hcases⟩ := (hflags.mends f hf).exists_exchanges
  obtain ⟨after, hafter⟩ := hflags.rest_eq
  obtain ⟨other, hchecked⟩ := hflags.isChecked
  obtain ⟨a, ha, hstart⟩ := exists_mem_column hchecked
  obtain ⟨e, tail, hrest, he⟩ := ((hs.wellFormed ha).isSolid
    (Site.isMarked_of_mem_column hs.isDeclaration ha)).cut hstart.symm
  have hnode := hs.start_lt_node_stop ha
  have hstop : s.node.span.stop = c.offset + found.byteLength := hflags.stop_eq
  cases found with
  | nil => simp at hstop; omega
  | cons b found =>
    obtain rfl : b = e := by
      rw [hafter, List.cons_append] at hrest
      exact (List.cons.inj hrest).1
    exact ⟨c, b, found, after, top, gap, new, hafter, he, hchecked.isBlank_indent, hexchange,
      admits_of_exchanges hexchange hcases⟩

/-- Every fix for a source is the fix of a flagged member. -/
theorem exists_site_of_mem_check (htree : tree.WellFormed source)
    (h : f ∈ (rule.check source tree).filterMap (·.fix?)) :
    ∃ s ∈ tree.sites, s.isClassMember = true ∧ f.span.start < f.span.stop ∧
      (rule.examine source (.ofText source) s.toMember).standing = .flagged f.span ∧
      ∃ c e found after top gap new, rule.Repairs source f c e found after top gap new := by
  obtain ⟨d, hd, hfix⟩ := List.mem_filterMap.1 h
  rw [check, verdicts_eq_map] at hd
  obtain ⟨v, hv, hdiagnostic⟩ := List.mem_filterMap.1 hd
  obtain ⟨m, hm, rfl⟩ := List.mem_map.1 hv
  obtain ⟨s, hs, rfl⟩ := List.mem_map.1 hm
  obtain ⟨hs, hclass⟩ := List.mem_filter.1 hs
  obtain ⟨body, hdeclares⟩ := Site.exists_declares htree hs hclass
  have hstanding : (rule.examine source (.ofText source) s.toMember).standing =
      .flagged f.span := by
    refine span?_eq_some ?_
    rw [Verdict.span?_standing, hdiagnostic, Option.bind_some, hfix, Option.map_some]
  exact ⟨s, hs, hclass, start_lt_stop_of_flagged hdeclares hstanding, hstanding,
    exists_repairs hdeclares hfix hdiagnostic⟩

/-- Fixes one behind the other can be made, the last one first, and mend their members. -/
theorem exists_mended (hsteady : read.IsSteady dialect source) (hspacing : rule.spacing.Separates)
    (file : Path) {fixes : List Fix} (hpairwise : fixes.Pairwise (·.stop < ·.offset))
    (hfixes : ∀ f ∈ fixes, f ∈ (rule.check source (read dialect source)).filterMap (·.fix?)) :
    ∃ text move, Fix.applyFrom file source fixes = .ok text ∧
      rule.Mended read dialect source text (fixes.map Fix.span) move := by
  induction fixes with
  | nil => exact ⟨source, id, rfl, .refl rule read dialect source⟩
  | cons f rest ih =>
    rw [List.pairwise_cons] at hpairwise
    obtain ⟨text, move, happly, hmended⟩ := ih hpairwise.2 fun g hg =>
      hfixes g (List.mem_cons_of_mem _ hg)
    obtain ⟨s, hs, hclass, hpos, hstanding, c, e, found, after, top, gap, new, hrepairs⟩ :=
      exists_site_of_mem_check (hsteady.wellFormed .refl) (hfixes f (List.mem_cons_self ..))
    have hlt : ∀ t ∈ rest.map Fix.span, f.span.stop < t.start :=
      List.forall_mem_map.2 hpairwise.1
    have hexchange := hrepairs.exchanges
    obtain ⟨tail, htext, happly'⟩ := Fix.exists_tail_of_applyFrom happly
      (fun g hg => Nat.le_of_lt (hpairwise.1 g hg)) hrepairs.source_eq hexchange.offset_eq
      hexchange.length_eq
    -- The later fixes leave the member alone, so it still looks the same.
    have hmem : s.shift move ∈ (read dialect text).sites := by
      rw [hmended.tree_eq, Tree.sites_shift]
      exact List.mem_map_of_mem hs
    obtain ⟨body, hdeclares⟩ := Site.exists_declares (hsteady.wellFormed hmended.respaced) hmem
      (by rw [Site.isClassMember_shift, hclass])
    obtain ⟨c', body', top', gap', hflags, hspan⟩ := exists_flagsAt
      (hmended.standing_of_lt hs hclass hstanding hpos hlt)
    obtain rfl := body_eq_of_declares hdeclares hflags.isChecked
    have hfront : text = top ++ (gap ++ (c.indent ++ e :: (found ++ tail))) := by
      rw [htext]
      simp
    obtain ⟨rfl, hindent, hrest⟩ := hflags.eq_of_front hdeclares hfront
      ((congrArg Span.start hspan).symm.trans hexchange.offset_eq) hexchange.endsLine_gap
      hexchange.isBlank_gap c.sameLine hrepairs.isBlank_indent hrepairs.not_isSpace
    obtain ⟨next, hnext⟩ := hmended.step hsteady hspacing hs hclass hstanding hpos hlt hdeclares
      hflags hspan hexchange.endsLine_new hexchange.isBlank_new hrepairs.admits
    refine ⟨_, next, happly', ?_⟩
    rw [hindent, hrest] at hnext
    rw [hexchange.replacement_eq]
    simpa using hnext

/-! ## The pass -/

theorem Mended.standings_eq {text : Text} {mended : List Span} {move : Nat → Nat}
    (h : rule.Mended read dialect source text mended move) :
    rule.standings text (read dialect text) =
      (rule.standings source (read dialect source)).map (Standing.mend mended move) := by
  have hfilter : (read dialect text).sites.filter Site.isClassMember =
      ((read dialect source).sites.filter Site.isClassMember).map (Site.shift move) := by
    rw [h.tree_eq, Tree.sites_shift, List.filter_map]
    exact congrArg _ (List.filter_congr fun s _ => s.isClassMember_shift move)
  rw [standings_eq_map, standings_eq_map, hfilter, List.map_map, List.map_map]
  refine List.map_congr_left fun s hs => ?_
  obtain ⟨hs, hclass⟩ := List.mem_filter.1 hs
  rw [Function.comp_apply, Function.comp_apply, Site.toMember_shift]
  exact h.standing_eq hs hclass

/-- The fixes that are left are those that were not made, moved. -/
theorem Mended.spans_eq {text : Text} {mended : List Span} {move : Nat → Nat}
    (h : rule.Mended read dialect source text mended move) :
    rule.spans text (read dialect text) =
      ((rule.spans source (read dialect source)).filter fun s => s ∉ mended).map (Span.map move) := by
  rw [spans, h.standings_eq, List.filterMap_map, spans]
  induction rule.standings source (read dialect source) with
  | nil => rfl
  | cons standing rest ih =>
    cases standing with
    | exempt => exact ih
    | settled => exact ih
    | flagged span =>
      by_cases hmem : span ∈ mended <;> simpa [Standing.mend, Standing.span?, hmem] using ih

/-- A pass over a source with flagged members mends those with the outermost fixes. -/
theorem exists_pass (hsteady : read.IsSteady dialect source) (hspacing : rule.spacing.Separates)
    (file : Path) : ∃ pass mended move,
      applyFixes file source (rule.check source (read dialect source)) = .ok pass ∧
      rule.Mended read dialect source pass.text mended move ∧ pass.applied = mended.length ∧
      (rule.spans source (read dialect source)).Perm
        (mended ++ (rule.spans source (read dialect source)).filter fun s => s ∉ mended) ∧
      (rule.spans source (read dialect source) ≠ [] →
        Span.height (rule.spans source (read dialect source)) = Span.height
          ((rule.spans source (read dialect source)).filter fun s => s ∉ mended) + 1) := by
  have htree := hsteady.wellFormed .refl
  have hspans := map_span_check rule source (read dialect source)
  have hlaminar : (rule.spans source (read dialect source)).Pairwise Span.IsLaminar :=
    pairwise_isLaminar htree
  have hpos : ∀ g ∈ (rule.check source (read dialect source)).filterMap (·.fix?), 0 < g.length := by
    intro g hg
    obtain ⟨-, -, -, hlt, -⟩ := exists_site_of_mem_check htree hg
    simp only [Fix.span, Fix.stop] at hlt
    omega
  rw [← hspans] at hlaminar
  obtain ⟨text, move, happly, hmended⟩ := exists_mended hsteady hspacing file
    (Fix.pairwise_select_of_isLaminar hlaminar hpos) fun f hf => Fix.mem_of_mem_select hf
  refine ⟨⟨text, _, _⟩, _, move, applyFixes_eq_ok_iff.2 ⟨happly, rfl, rfl⟩, hmended, by simp, ?_, ?_⟩
  · rw [← hspans]
    exact Fix.perm_select hlaminar
  · rw [← hspans]
    intro hne
    exact Fix.height_eq_succ (by rintro heq; simp [heq] at hne) hlaminar hpos

end Rule

end ClassSpacing
