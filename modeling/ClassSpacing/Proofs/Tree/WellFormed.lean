import ClassSpacing.Proofs.Text.Lines
import ClassSpacing.Proofs.Tree.Ordered

/-!
# Well-formed trees

The nodes of a well-formed tree stand in the text: children one behind the other and inside their
parent, and the nodes that the rule asks about start and end with something other than white space.
For two sites of such a tree, `Site.Precedes` tells how the earlier one stands to the later one:
the later one is below it, or behind it, or a sibling, or a sibling of something around it.
-/

namespace ClassSpacing

open Text

/-! ## Spans -/

/-- A text that starts and ends with something other than white space. -/
def Text.IsTrimmed (t : Text) : Prop :=
  (∃ e ∈ t.head?, isSpace e = false) ∧ ∃ e ∈ t.getLast?, isSpace e = false

theorem Text.IsTrimmed.byteLength_pos {t : Text} (h : t.IsTrimmed) : 0 < t.byteLength := by
  obtain ⟨⟨e, he, -⟩, -⟩ := h
  refine Text.byteLength_pos ?_
  rintro rfl
  simp at he

/-! ## Well-formed trees -/

/-- Whether the rule asks where a node of this kind starts or ends. -/
def Kind.isMarked : Kind → Bool
  | methodDefinition | methodSignature | abstractMethodSignature | decorator | comment
  | classBody => true
  | _ => false

/-- What a node says, if it is a part of the text. -/
def Tree.text? (source : Text) (t : Tree) : Option Text :=
  source.slice? t.span.start t.span.stop

theorem Tree.start_le_stop_of_text? {source : Text} {t : Tree} (h : (t.text? source).isSome) :
    t.span.start ≤ t.span.stop := by
  obtain ⟨text, htext⟩ := Option.isSome_iff_exists.1 h
  obtain ⟨-, -, -, -, hstop⟩ := slice?_eq_some_iff.1 htext
  omega

/-- A tree whose nodes stand in the text as those of a parse tree do. -/
inductive Tree.WellFormed (source : Text) : Tree → Prop
  | intro {t : Tree} {text : Text} (text_eq : t.text? source = some text)
      (isTrimmed : t.kind.isMarked = true → text.IsTrimmed)
      (brace : t.kind = .classBody → text.head? = some '{')
      (ordered : t.children.Pairwise fun a b => a.span.stop ≤ b.span.start)
      (inside : ∀ u ∈ t.children, u.span.Within t.span)
      (below : ∀ u ∈ t.children, u.WellFormed source) : t.WellFormed source

namespace Tree.WellFormed

variable {source : Text} {t : Tree}

theorem ordered (h : t.WellFormed source) :
    t.children.Pairwise fun a b => a.span.stop ≤ b.span.start := by
  cases h; assumption

theorem inside (h : t.WellFormed source) {u : Tree} (hu : u ∈ t.children) :
    u.span.Within t.span := by
  cases h with
  | intro _ _ _ _ inside _ => exact inside u hu

theorem child (h : t.WellFormed source) {u : Tree} (hu : u ∈ t.children) : u.WellFormed source := by
  cases h with
  | intro _ _ _ _ _ below => exact below u hu

theorem exists_text (h : t.WellFormed source) : ∃ text, t.text? source = some text ∧
    (t.kind.isMarked = true → text.IsTrimmed) ∧ (t.kind = .classBody → text.head? = some '{') := by
  cases h with
  | intro text_eq isTrimmed brace _ _ _ => exact ⟨_, text_eq, isTrimmed, brace⟩

/-- A node that the rule asks about is not empty. -/
theorem start_lt_stop (h : t.WellFormed source) (hmarked : t.kind.isMarked = true) :
    t.span.start < t.span.stop := by
  obtain ⟨text, htext, htrimmed, -⟩ := h.exists_text
  obtain ⟨before, after, -, -, hstop⟩ := slice?_eq_some_iff.1 htext
  have := (htrimmed hmarked).byteLength_pos
  omega

theorem start_le_stop (h : t.WellFormed source) : t.span.start ≤ t.span.stop := by
  obtain ⟨text, htext, -, -⟩ := h.exists_text
  exact start_le_stop_of_text? (Option.isSome_iff_exists.2 ⟨text, htext⟩)

/-- A node that the rule asks about does not start in a blank part of the text. -/
theorem start_lt_or_le (h : t.WellFormed source) (hmarked : t.kind.isMarked = true)
    {top mid rest : Text} (hsource : source = top ++ (mid ++ rest)) (hmid : mid.isBlank = true) :
    t.span.start < top.byteLength ∨ (top ++ mid).byteLength ≤ t.span.start := by
  obtain ⟨text, htext, htrimmed, -⟩ := h.exists_text
  obtain ⟨before, after, hcut, hstart, -⟩ := slice?_eq_some_iff.1 htext
  obtain ⟨⟨e, he, hspace⟩, -⟩ := htrimmed hmarked
  obtain ⟨body, rfl⟩ : ∃ body, text = e :: body := List.head?_eq_some_iff.1 he
  have heq : before ++ e :: (body ++ after) = top ++ (mid ++ rest) := by
    rw [← hsource, hcut, List.append_assoc]
    rfl
  rw [← hstart]
  exact lt_or_le_of_solid_start heq hmid hspace

/-- A node that the rule asks about does not end in a blank part of the text. -/
theorem stop_le (h : t.WellFormed source) (hmarked : t.kind.isMarked = true)
    {top mid rest : Text} (hsource : source = top ++ (mid ++ rest)) (hmid : mid.isBlank = true)
    (hle : t.span.stop ≤ (top ++ mid).byteLength) : t.span.stop ≤ top.byteLength := by
  obtain ⟨text, htext, htrimmed, -⟩ := h.exists_text
  obtain ⟨before, after, hcut, hstart, hstop⟩ := slice?_eq_some_iff.1 htext
  obtain ⟨-, e, he, hspace⟩ := htrimmed hmarked
  have hstop' : t.span.stop = (before ++ text).byteLength := by rw [byteLength_append, hstart, hstop]
  rw [hstop'] at hle ⊢
  refine le_of_solid_end (hcut.symm.trans hsource) hmid ?_ hspace hle
  rw [List.getLast?_append, he]
  rfl

end Tree.WellFormed

/-! ## Sites -/

namespace Site

variable {source : Text}

/-- A site whose row is a part of the children of the node around it. -/
structure IsPlaced (source : Text) (s : Site) (parent : Tree) : Prop where
  head?_around : s.around.head? = some parent
  wellFormed : parent.WellFormed source
  mem_children : ∀ t ∈ s.row, t ∈ parent.children
  ordered : s.row.Pairwise fun a b => b.span.stop ≤ a.span.start

theorem IsPlaced.within {s : Site} {parent t : Tree} (h : s.IsPlaced source parent)
    (ht : t ∈ s.row) : t.span.Within parent.span :=
  h.wellFormed.inside (h.mem_children t ht)

theorem IsPlaced.wellFormed_of_mem {s : Site} {parent t : Tree} (h : s.IsPlaced source parent)
    (ht : t ∈ s.row) : t.WellFormed source :=
  h.wellFormed.child (h.mem_children t ht)

theorem IsPlaced.isOrdered {s : Site} {parent : Tree} (h : s.IsPlaced source parent) :
    s.IsOrdered :=
  ⟨fun _ ht => (h.wellFormed_of_mem ht).start_le_stop, h.ordered⟩

/-- A site somewhere below a node. -/
def IsBelow (source : Text) (s : Site) (t : Tree) : Prop :=
  ∃ parent, s.IsPlaced source parent ∧ parent.span.Within t.span

theorem IsBelow.within {s : Site} {t : Tree} (h : s.IsBelow source t) :
    s.node.span.Within t.span := by
  obtain ⟨parent, hplaced, hwithin⟩ := h
  exact (hplaced.within (List.mem_cons_self ..)).trans hwithin

/-- How an earlier site stands to a later one. -/
inductive Precedes (source : Text) (s u : Site) : Prop
  /-- The later one is below the earlier one. -/
  | below (h : u.IsBelow source s.node)
  /-- The node around the later one is behind the earlier one. -/
  | apart {parent : Tree} (h : u.IsPlaced source parent)
      (hle : s.node.span.stop ≤ parent.span.start)
  /-- They are siblings. -/
  | sibling {parent : Tree} {between : List Tree} (hs : s.IsPlaced source parent)
      (hu : u.IsPlaced source parent) (h : u.before = between ++ s.row)
  /-- The earlier one is below a sibling of the later one. -/
  | inSibling {parent t : Tree} (hu : u.IsPlaced source parent) (ht : t ∈ u.before)
      (h : s.IsBelow source t)

end Site

/-! ## The sites of a well-formed tree -/

namespace Tree.WellFormed

variable {source : Text} {t : Tree}

theorem of_mem_nodes (h : t.WellFormed source) {u : Tree} (hu : u ∈ t.nodes) :
    u.WellFormed source := by
  induction t using Tree.childInduction with
  | step t ih =>
    rcases Tree.mem_nodes_iff.1 hu with rfl | ⟨c, hc, hu⟩
    · exact h
    · exact ih c hc (h.child hc) hu

/-- The nodes of a well-formed tree stand in the order of the text. -/
theorem isOrdered (h : t.WellFormed source) : t.IsOrdered := by
  intro u hu
  have hwell := h.of_mem_nodes hu
  exact ⟨hwell.start_le_stop, hwell.ordered, fun c hc => hwell.inside hc⟩

/-- The children of a well-formed node, as sites. -/
theorem isPlaced {s : Site} (h : t.WellFormed source) (hs : s.IsChild t) : s.IsPlaced source t :=
  ⟨hs.head?_around, h, fun _ hu => hs.mem_children hu, (h.isOrdered.site hs).pairwise⟩

end Tree.WellFormed

variable {source : Text}

/-- A site of a tree is the tree itself or below it. -/
theorem Tree.eq_or_isBelow_of_mem_sitesIn {before around : List Tree} {u : Site} {t : Tree}
    (ht : t.WellFormed source) (hu : u ∈ t.sitesIn before around) :
    u = ⟨t, before, around⟩ ∨ u.IsBelow source t := by
  rcases Tree.eq_or_isChild_of_mem_sitesIn hu with rfl | ⟨parent, hparent, hchild⟩
  · exact .inl rfl
  · have hwell := ht.of_mem_nodes hparent
    exact .inr ⟨parent, hwell.isPlaced hchild, ht.isOrdered.within hparent⟩

/-- How an earlier site of a well-formed tree stands to a later one. -/
theorem Tree.WellFormed.precedes_of_earlier {t : Tree} (ht : t.WellFormed source) {s u : Site}
    (hs : s ∈ t.sites) (h : s.Earlier t u) : s.Precedes source u := by
  cases h with
  | below hparent hchild =>
    have hnode := ht.of_mem_nodes (Tree.node_mem_nodes hs)
    have hwell := hnode.of_mem_nodes hparent
    exact .below ⟨_, hwell.isPlaced hchild, hnode.isOrdered.within hparent⟩
  | @apart parent a b before between around hparent hchild hs hu =>
    have hwell := ht.of_mem_nodes hparent
    have hplaced := hwell.isPlaced hchild
    have ha : a ∈ between ++ a :: before := by simp
    have hle : a.span.stop ≤ b.span.start := (List.pairwise_cons.1 hplaced.ordered).1 a ha
    have haWell := hplaced.wellFormed_of_mem (List.mem_cons_of_mem _ ha)
    have hbWell := hplaced.wellFormed_of_mem List.mem_cons_self
    -- The earlier site is `a` or below it; the later one is `b` or below it.
    rcases Tree.eq_or_isBelow_of_mem_sitesIn hbWell hu with rfl | ⟨q, huPlaced, hwithin⟩
    · rcases Tree.eq_or_isBelow_of_mem_sitesIn haWell hs with rfl | hsBelow
      · exact .sibling (hwell.isPlaced hchild.of_append) hplaced rfl
      · exact .inSibling hplaced ha hsBelow
    · have hstop : s.node.span.stop ≤ a.span.stop :=
        (haWell.isOrdered.within (Tree.node_mem_nodes hs)).2
      exact .apart huPlaced (Nat.le_trans hstop (Nat.le_trans hle hwithin.1))

/-- The sites of a well-formed tree, in the order of the walk. -/
theorem Tree.WellFormed.pairwise_sites {t : Tree} (h : t.WellFormed source) :
    t.sites.Pairwise (Site.Precedes source) :=
  (Tree.pairwise_sites t).imp_of_mem fun hs _ hearlier => h.precedes_of_earlier hs hearlier

/-- Two sites of a well-formed tree are the same, or one comes before the other. -/
theorem Tree.WellFormed.eq_or_precedes {t : Tree} (h : t.WellFormed source) {s u : Site}
    (hs : s ∈ t.sites) (hu : u ∈ t.sites) :
    s = u ∨ s.Precedes source u ∨ u.Precedes source s := by
  have hpairwise := h.pairwise_sites
  revert hs hu hpairwise
  induction t.sites with
  | nil => simp
  | cons v rest ih =>
    intro hs hu hpairwise
    rw [List.pairwise_cons] at hpairwise
    rcases List.mem_cons.1 hs with rfl | hs'
    · rcases List.mem_cons.1 hu with rfl | hu'
      · exact .inl rfl
      · exact .inr (.inl (hpairwise.1 u hu'))
    · rcases List.mem_cons.1 hu with rfl | hu'
      · exact .inr (.inr (hpairwise.1 s hs'))
      · exact ih hs' hu' hpairwise.2

end ClassSpacing
