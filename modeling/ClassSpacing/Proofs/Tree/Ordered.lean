import ClassSpacing.Proofs.Tree.Sites

/-!
# Trees in the order of the text

The nodes of an ordered tree stand as those of a parse tree do: children one behind the other and
inside their parent. What they say does not matter, and their ends may fall inside of characters.
-/

namespace ClassSpacing

/-! ## Spans -/

/-- Whether a span lies inside another one. -/
def Span.Within (inner outer : Span) : Prop :=
  outer.start ≤ inner.start ∧ inner.stop ≤ outer.stop

theorem Span.Within.refl (s : Span) : s.Within s := ⟨Nat.le_refl _, Nat.le_refl _⟩

theorem Span.Within.trans {a b c : Span} (hab : a.Within b) (hbc : b.Within c) : a.Within c :=
  ⟨Nat.le_trans hbc.1 hab.1, Nat.le_trans hab.2 hbc.2⟩

theorem Span.Within.antisymm {a b : Span} (hab : a.Within b) (hba : b.Within a) : a = b := by
  cases a
  cases b
  exact congrArg₂ Span.mk (Nat.le_antisymm hba.1 hab.1) (Nat.le_antisymm hab.2 hba.2)

/-! ## Rows -/

/-- A site whose row stands in the order of the text. -/
structure Site.IsOrdered (s : Site) : Prop where
  start_le_stop : ∀ t ∈ s.row, t.span.start ≤ t.span.stop
  pairwise : s.row.Pairwise fun a b => b.span.stop ≤ a.span.start

namespace Site.IsOrdered

variable {s : Site} {a b : Tree}

/-- Two nodes of a row stand one behind the other. -/
theorem eq_or_le (h : s.IsOrdered) (ha : a ∈ s.row) (hb : b ∈ s.row) :
    a = b ∨ a.span.stop ≤ b.span.start ∨ b.span.stop ≤ a.span.start := by
  obtain ⟨i, hi, rfl⟩ := List.getElem_of_mem ha
  obtain ⟨j, hj, rfl⟩ := List.getElem_of_mem hb
  rcases Nat.lt_trichotomy i j with hlt | rfl | hlt
  · exact .inr (.inr (List.pairwise_iff_getElem.1 h.pairwise i j hi hj hlt))
  · exact .inl rfl
  · exact .inr (.inl (List.pairwise_iff_getElem.1 h.pairwise j i hj hi hlt))

theorem start_le_node (h : s.IsOrdered) (ha : a ∈ s.row) :
    a.span.start ≤ s.node.span.start := by
  rcases List.mem_cons.1 ha with rfl | hbefore
  · exact Nat.le_refl _
  · exact Nat.le_trans (h.start_le_stop a ha) ((List.pairwise_cons.1 h.pairwise).1 a hbefore)

theorem stop_le_node (h : s.IsOrdered) (ha : a ∈ s.row) : a.span.stop ≤ s.node.span.stop := by
  rcases List.mem_cons.1 ha with rfl | hbefore
  · exact Nat.le_refl _
  · exact Nat.le_trans ((List.pairwise_cons.1 h.pairwise).1 a hbefore)
      (h.start_le_stop s.node List.mem_cons_self)

/-- Nothing of a row stands between two neighbours in it. -/
theorem not_between (h : s.IsOrdered) {lower upper : Tree} (hn : [lower, upper] <:+: s.row)
    (ha : a ∈ s.row) : a.span.stop ≤ upper.span.stop ∨ lower.span.start ≤ a.span.start := by
  obtain ⟨l, r, hrow⟩ := hn
  have hlower : lower ∈ s.row := by simp [← hrow]
  have hupper : upper ∈ s.row := by simp [← hrow]
  have hordered := h.pairwise
  rw [← hrow, List.append_assoc, List.pairwise_append] at hordered
  rw [← hrow, List.append_assoc] at ha
  rcases List.mem_append.1 ha with ha | ha
  · right
    exact Nat.le_trans (h.start_le_stop lower hlower) (hordered.2.2 a ha lower (by simp))
  · rcases List.mem_cons.1 ha with rfl | ha
    · exact .inr (Nat.le_refl _)
    · left
      rcases List.mem_cons.1 ha with rfl | ha
      · exact Nat.le_refl _
      · have hupperLe := (List.pairwise_cons.1 (List.pairwise_cons.1 hordered.2.1).2).1 a ha
        exact Nat.le_trans hupperLe (h.start_le_stop upper hupper)

end Site.IsOrdered

/-! ## Trees -/

/-- A tree whose nodes stand in the order of the text: none of them ends before it starts, and the
    children of each come one behind the other and inside it. -/
def Tree.IsOrdered (t : Tree) : Prop :=
  ∀ u ∈ t.nodes, u.span.start ≤ u.span.stop ∧
    u.children.Pairwise (fun a b => a.span.stop ≤ b.span.start) ∧
    ∀ c ∈ u.children, c.span.Within u.span

namespace Tree.IsOrdered

variable {t u : Tree}

theorem of_mem_nodes (h : t.IsOrdered) (hu : u ∈ t.nodes) : u.IsOrdered :=
  fun v hv => h v (mem_nodes_trans hu hv)

/-- The nodes of a tree lie inside it. -/
theorem within (h : t.IsOrdered) (hu : u ∈ t.nodes) : u.span.Within t.span := by
  induction t using childInduction with
  | step t ih =>
    rcases mem_nodes_iff.1 hu with rfl | ⟨c, hc, hu⟩
    · exact Span.Within.refl _
    · have hchild := h.of_mem_nodes (mem_nodes_of_child hc (mem_nodes_self c))
      exact (ih c hc hchild hu).trans ((h t (mem_nodes_self t)).2.2 c hc)

/-- The children of a node of an ordered tree, as sites. -/
theorem site {s : Site} (h : t.IsOrdered) (hs : s.IsChild t) : s.IsOrdered where
  start_le_stop a ha :=
    (h a (mem_nodes_of_child (hs.mem_children ha) (mem_nodes_self a))).1
  pairwise :=
    List.pairwise_reverse.1 ((h t (mem_nodes_self t)).2.1.sublist hs.sublist)

end Tree.IsOrdered

end ClassSpacing
