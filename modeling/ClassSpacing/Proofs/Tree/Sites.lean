import ClassSpacing.Proofs.Tree.Faults

/-!
# The order of the sites of a tree

`Tree.sites` lists the named nodes of a tree, each before those below it. Nothing is asked about
spans here, so all this holds of every tree: a site other than the top stands in a row of children of
some node (`Site.IsChild`), and of two sites the later one is below the earlier one, or they are at or
below two children of one node (`Site.Earlier`).
-/

namespace ClassSpacing

namespace Tree

mutual

/-- What each node has if its children have it is had by every tree. -/
@[elab_as_elim]
theorem childInduction {motive : Tree → Prop}
    (step : ∀ t : Tree, (∀ u ∈ t.children, motive u) → motive t) : ∀ t : Tree, motive t
  | ⟨_, _, _, _, _, children⟩ => step _ (childInductionList step children)
termination_by structural t => t

theorem childInductionList {motive : Tree → Prop}
    (step : ∀ t : Tree, (∀ u ∈ t.children, motive u) → motive t) :
    ∀ ts : List Tree, ∀ u ∈ ts, motive u
  | [] => nofun
  | t :: rest => List.forall_mem_cons.2 ⟨childInduction step t, childInductionList step rest⟩
termination_by structural ts => ts

end

/-! ## Nodes below a node -/

theorem mem_nodes_iff {t u : Tree} : u ∈ t.nodes ↔ u = t ∨ ∃ c ∈ t.children, u ∈ c.nodes := by
  rw [nodes_eq, List.mem_cons, mem_nodesOf]

theorem mem_nodes_self (t : Tree) : t ∈ t.nodes :=
  mem_nodes_iff.2 (.inl rfl)

theorem mem_nodes_of_child {t c u : Tree} (hc : c ∈ t.children) (hu : u ∈ c.nodes) : u ∈ t.nodes :=
  mem_nodes_iff.2 (.inr ⟨c, hc, hu⟩)

theorem mem_nodes_trans {t u v : Tree} (hu : u ∈ t.nodes) (hv : v ∈ u.nodes) : v ∈ t.nodes := by
  induction t using childInduction with
  | step t ih =>
    rcases mem_nodes_iff.1 hu with rfl | ⟨c, hc, hu⟩
    · exact hv
    · exact mem_nodes_of_child hc (ih c hc hu)

end Tree

/-! ## Rows -/

namespace Site

/-- The node of a site and its named siblings before it, nearest first. -/
def row (s : Site) : List Tree := s.node :: s.before

/-- A site that stands among the children of a node, behind some that are named. -/
structure IsChild (s : Site) (parent : Tree) : Prop where
  head?_around : s.around.head? = some parent
  sublist : s.row.reverse.Sublist parent.children

theorem IsChild.mem_children {s : Site} {parent t : Tree} (h : s.IsChild parent) (ht : t ∈ s.row) :
    t ∈ parent.children :=
  h.sublist.subset (List.mem_reverse.2 ht)

/-- The siblings before a child of a node are children of it too. -/
theorem IsChild.of_append {parent a b : Tree} {between before around : List Tree}
    (h : IsChild ⟨b, between ++ a :: before, around⟩ parent) :
    IsChild ⟨a, before, around⟩ parent := by
  refine ⟨h.head?_around, List.Sublist.trans ?_ h.sublist⟩
  exact (List.sublist_append_right (b :: between) (a :: before)).reverse

theorem IsChild.parent_unique {s : Site} {p q : Tree} (hp : s.IsChild p) (hq : s.IsChild q) :
    p = q :=
  Option.some.inj (hp.head?_around.symm.trans hq.head?_around)

end Site

namespace Tree

/-- A site of some siblings is at or below one of them, behind all the named ones before it. -/
theorem exists_row_of_mem_sitesInList {around before ts : List Tree} {s : Site}
    (h : s ∈ sitesInList around before ts) :
    ∃ between t, s ∈ t.sitesIn (between ++ before) around ∧
      between.reverse ++ [t] <+: ts.filter (·.isNamed) := by
  induction ts generalizing before with
  | nil => simp [sitesInList] at h
  | cons t rest ih =>
    rw [sitesInList] at h
    split at h
    · rename_i hnamed
      rw [List.filter_cons_of_pos hnamed]
      rcases List.mem_append.1 h with h | h
      · exact ⟨[], t, h, by simp⟩
      · obtain ⟨between, u, hu, hrow⟩ := ih h
        refine ⟨between ++ [t], u, by simpa using hu, ?_⟩
        simpa using hrow
    · rename_i hnamed
      rw [List.filter_cons_of_neg hnamed]
      exact ih h

theorem exists_mem_sitesIn {around before ts : List Tree} {s : Site}
    (h : s ∈ sitesInList around before ts) :
    ∃ between t, s ∈ t.sitesIn (between ++ before) around ∧
      (between.reverse ++ [t]).Sublist ts := by
  obtain ⟨between, t, hs, hrow⟩ := exists_row_of_mem_sitesInList h
  exact ⟨between, t, hs, hrow.sublist.trans List.filter_sublist⟩

theorem sitesIn_eq (before around : List Tree) (t : Tree) :
    t.sitesIn before around = ⟨t, before, around⟩ :: sitesInList (t :: around) [] t.children := by
  cases t
  rw [sitesIn]

theorem mem_sitesIn_iff {before around : List Tree} {t : Tree} {s : Site} :
    s ∈ t.sitesIn before around ↔
      s = ⟨t, before, around⟩ ∨ s ∈ sitesInList (t :: around) [] t.children := by
  rw [sitesIn_eq, List.mem_cons]

/-- A site of a tree is the tree itself, or the named children of one of its nodes start with the row
    of the site. -/
theorem eq_or_row_of_mem_sitesIn {t : Tree} {before around : List Tree} {s : Site}
    (h : s ∈ t.sitesIn before around) :
    s = ⟨t, before, around⟩ ∨ ∃ parent ∈ t.nodes, s.around.head? = some parent ∧
      s.row.reverse <+: parent.children.filter (·.isNamed) := by
  induction t using childInduction generalizing before around with
  | step t ih =>
    rcases mem_sitesIn_iff.1 h with rfl | h
    · exact .inl rfl
    · right
      obtain ⟨between, c, hc, hrow⟩ := exists_row_of_mem_sitesInList h
      have hmem : c ∈ t.children := List.mem_of_mem_filter (hrow.subset (by simp))
      rcases ih c hmem hc with rfl | ⟨parent, hparent, hrow⟩
      · exact ⟨t, mem_nodes_self t, rfl, by simpa [Site.row] using hrow⟩
      · exact ⟨parent, mem_nodes_of_child hmem hparent, hrow⟩

/-- A site of a tree is the tree itself, or it is a child of one of its nodes. -/
theorem eq_or_isChild_of_mem_sitesIn {t : Tree} {before around : List Tree} {s : Site}
    (h : s ∈ t.sitesIn before around) :
    s = ⟨t, before, around⟩ ∨ ∃ parent ∈ t.nodes, s.IsChild parent := by
  rcases eq_or_row_of_mem_sitesIn h with rfl | ⟨parent, hparent, haround, hrow⟩
  · exact .inl rfl
  · exact .inr ⟨parent, hparent, haround, hrow.sublist.trans List.filter_sublist⟩

/-- The node of a site of a tree is one of its nodes. -/
theorem node_mem_nodes {t : Tree} {before around : List Tree} {s : Site}
    (h : s ∈ t.sitesIn before around) : s.node ∈ t.nodes := by
  rcases eq_or_isChild_of_mem_sitesIn h with rfl | ⟨parent, hparent, hchild⟩
  · exact mem_nodes_self t
  · have hmem := hchild.mem_children (t := s.node) List.mem_cons_self
    exact mem_nodes_trans hparent (mem_nodes_of_child hmem (mem_nodes_self _))

end Tree

/-! ## Two sites -/

/-- How an earlier site of the walk over a tree stands to a later one. -/
inductive Site.Earlier (root : Tree) (s u : Site) : Prop
  /-- The later one is below the earlier one. -/
  | below {parent : Tree} (hparent : parent ∈ s.node.nodes) (h : u.IsChild parent)
  /-- They are at or below two children `a` and `b` of one node. -/
  | apart {parent a b : Tree} {before between around : List Tree} (hparent : parent ∈ root.nodes)
      (h : Site.IsChild ⟨b, between ++ a :: before, around⟩ parent)
      (hs : s ∈ a.sitesIn before around) (hu : u ∈ b.sitesIn (between ++ a :: before) around)

namespace Tree

variable {root : Tree}

/-- The sites of some children of a node, where those of each child are in order. -/
theorem pairwise_sitesInList {parent : Tree} (hparent : parent ∈ root.nodes) (around : List Tree)
    {before ts : List Tree} (hsublist : (before.reverse ++ ts).Sublist parent.children)
    (h : ∀ t ∈ ts, ∀ before around, (t.sitesIn before around).Pairwise (Site.Earlier root)) :
    (sitesInList (parent :: around) before ts).Pairwise (Site.Earlier root) := by
  induction ts generalizing before with
  | nil => exact List.Pairwise.nil
  | cons t rest ih =>
    rw [List.forall_mem_cons] at h
    have hnext : ((t :: before).reverse ++ rest).Sublist parent.children := by
      simpa using hsublist
    rw [sitesInList]
    split
    · refine List.pairwise_append.2 ⟨h.1 before (parent :: around), ih hnext h.2, ?_⟩
      intro s hs u hu
      obtain ⟨between, b, hb, hrest⟩ := exists_mem_sitesIn hu
      refine .apart hparent ⟨rfl, ?_⟩ hs hb
      have hrow := (hrest.append_left (t :: before).reverse).trans hnext
      simpa [Site.row] using hrow
    · exact ih ((List.Sublist.append_left (List.sublist_cons_self t rest) _).trans hsublist) h.2

theorem pairwise_sitesIn {t : Tree} (ht : t ∈ root.nodes) (before around : List Tree) :
    (t.sitesIn before around).Pairwise (Site.Earlier root) := by
  induction t using childInduction generalizing before around with
  | step t ih =>
    rw [sitesIn_eq]
    refine List.pairwise_cons.2 ⟨?_, ?_⟩
    · intro u hu
      obtain ⟨between, c, hc, hsublist⟩ := exists_mem_sitesIn hu
      rcases eq_or_isChild_of_mem_sitesIn hc with rfl | ⟨parent, hparent, hchild⟩
      · exact .below (mem_nodes_self t) ⟨rfl, by simpa [Site.row] using hsublist⟩
      · exact .below (mem_nodes_of_child (hsublist.subset (by simp)) hparent) hchild
    · refine pairwise_sitesInList ht around (by simp) ?_
      intro c hc before' around'
      exact ih c hc (mem_nodes_trans ht (mem_nodes_of_child hc (mem_nodes_self c))) before' around'

/-- The sites of a tree, in the order of the walk. -/
theorem pairwise_sites (root : Tree) : root.sites.Pairwise (Site.Earlier root) :=
  pairwise_sitesIn (mem_nodes_self root) [] []

end Tree

end ClassSpacing
