import ClassSpacing.Proofs.Rule.Anchor
import ClassSpacing.Proofs.Tree.Addresses
import ClassSpacing.Proofs.Tree.Visitor

/-!
# The members of a tree

`Tree.placedMembers` pairs the members of a tree with their addresses. Every node that declares a
member is listed once, before those inside of it, and a visitor is called once for each. In an
ordered tree the declarations start one behind the other, and the head of a member, which the walk
over decorators finds, stays behind everything else before the declaration. So the decorators of a
body are shared out among its members.
-/

namespace ClassSpacing

/-! ## Declarations of members -/

/-- A node that declares a constructor or a method: it has one of the kinds of declarations, and no
    child is a word that makes it an accessor. -/
def Tree.DeclaresMember (t : Tree) : Prop :=
  t.kind ∈ [.methodDefinition, .methodSignature, .abstractMethodSignature] ∧
    ∀ c ∈ t.children, c.kind ≠ .word "get" ∧ c.kind ≠ .word "set"

theorem Tree.DeclaresMember.kind_ne {t : Tree} (h : t.DeclaresMember) :
    t.kind ≠ .comment ∧ t.kind ≠ .decorator := by
  have hkind := h.1
  constructor <;> intro heq <;> simp [heq] at hkind

namespace Site

variable {source : Text} {s : Site} {m : Member}

theorem declaresMember_iff :
    s.node.DeclaresMember ↔ (s.isDeclaration && !s.isAccessor) = true := by
  have hdeclaration : s.isDeclaration = true ↔
      s.node.kind ∈ [.methodDefinition, .methodSignature, .abstractMethodSignature] := by
    unfold isDeclaration
    split <;> simp_all
  have haccessor : s.isAccessor = false ↔
      ∀ c ∈ s.node.children, c.kind ≠ .word "get" ∧ c.kind ≠ .word "set" := by
    simp [isAccessor]
  rw [Tree.DeclaresMember, Bool.and_eq_true, Bool.not_eq_true', hdeclaration, haccessor]

/-- What a site declares, and what is known of it from the site. -/
theorem member?_eq_some_iff : s.member? source = some m ↔
    s.node.DeclaresMember ∧ m = { s.toMember with kind := s.memberKind source } := by
  rw [member?, declaresMember_iff]
  split
  · next hdeclares => simp [hdeclares, toMember, eq_comm]
  · next hdeclares => simp [hdeclares]

/-! ## Heads -/

/-- What is neither a decorator nor a comment stays above the head. -/
theorem mem_aboveHead {u : Tree} (hu : u ∈ s.before) (hcomment : u.kind ≠ .comment)
    (hdecorator : u.kind ≠ .decorator) : u ∈ s.toMember.aboveHead := by
  rcases decorated_eq (s.node, s.before) s.before with heq | ⟨mid, heq, hhead, hmid⟩
  · have habove : s.toMember.aboveHead = s.before := congrArg Prod.snd heq
    rwa [habove]
  · rw [heq] at hu
    rcases List.mem_append.1 hu with hu | hu
    · rcases hmid u hu with hkind | hkind
      · exact absurd hkind hdecorator
      · exact absurd hkind hcomment
    · rcases List.mem_cons.1 hu with rfl | hu
      · exact absurd hhead hdecorator
      · exact hu

/-- The walk over decorators passes those that only decorators and comments separate from the
    declaration. -/
theorem decorated_append {run rest : List Tree} {d : Tree} (best : Tree × List Tree)
    (hrun : ∀ t ∈ run, t.kind = .decorator ∨ t.kind = .comment) (hd : d.kind = .decorator) :
    decorated best (run ++ d :: rest) = decorated (d, rest) rest := by
  induction run generalizing best with
  | nil => rw [List.nil_append, decorated, hd]
  | cons t run ih =>
    rw [List.forall_mem_cons] at hrun
    rw [List.cons_append, decorated]
    rcases hrun.1 with hkind | hkind
    · rw [hkind]
      exact ih _ hrun.2
    · rw [hkind]
      exact ih _ hrun.2

theorem head_mem_of_run {run rest : List Tree} {d : Tree} (hbefore : s.before = run ++ d :: rest)
    (hrun : ∀ t ∈ run, t.kind = .decorator ∨ t.kind = .comment) (hd : d.kind = .decorator) :
    s.toMember.head ∈ d :: rest := by
  have hdecorated : decorated (s.node, s.before) s.before = decorated (d, rest) rest := by
    rw [hbefore]
    exact decorated_append _ hrun hd
  have hhead : s.toMember.head = (decorated (d, rest) rest).1 := congrArg Prod.fst hdecorated
  rw [hhead]
  rcases decorated_eq (d, rest) rest with heq | ⟨mid, heq, -, -⟩
  · rw [heq]
    exact List.mem_cons_self
  · generalize decorated (d, rest) rest = found at heq ⊢
    rw [heq]
    simp

namespace IsOrdered

variable (h : s.IsOrdered)
include h

/-- A member does not start behind its declaration. -/
theorem start_le : s.toMember.start ≤ s.node.span.start :=
  h.start_le_node (s.column_subset_row List.mem_cons_self)

/-- What stands above the head ends before the member starts. -/
theorem stop_le_of_mem_aboveHead {u : Tree} (hu : u ∈ s.toMember.aboveHead) :
    u.span.stop ≤ s.toMember.start :=
  (List.pairwise_cons.1 (h.pairwise.sublist s.head_suffix_row.sublist)).1 u hu

/-- A member does not start behind the decorators that only decorators and comments separate from
    the declaration. -/
theorem start_le_of_run {run rest : List Tree} {d : Tree} (hbefore : s.before = run ++ d :: rest)
    (hrun : ∀ t ∈ run, t.kind = .decorator ∨ t.kind = .comment) (hd : d.kind = .decorator) :
    s.toMember.start ≤ d.span.start := by
  have hpairwise := h.pairwise
  rw [row, hbefore, ← List.cons_append, List.pairwise_append] at hpairwise
  rcases List.mem_cons.1 (head_mem_of_run hbefore hrun hd) with hhead | hhead
  · exact Nat.le_of_eq (congrArg (·.span.start) hhead)
  · have hstop := (List.pairwise_cons.1 hpairwise.2.1).1 _ hhead
    have hstart := h.start_le_stop _ (s.column_subset_row List.mem_cons_self)
    exact Nat.le_trans hstart hstop

end IsOrdered

end Site

/-! ## Members at their addresses -/

namespace Tree

variable {source : Text} {t : Tree} {a body : Address} {i j k : Nat} {m n : Member}

/-- The members of a tree, each with its address. -/
def placedMembers (source : Text) (t : Tree) : List (Address × Member) :=
  t.addresses.filterMap fun a => ((t.siteAt? a).bind (Site.member? source)).map (a, ·)

theorem mem_placedMembers_iff : (a, m) ∈ t.placedMembers source ↔
    ∃ s, t.siteAt? a = some s ∧ s.member? source = some m := by
  have hsome : t.siteAt? a ≠ none → a ∈ t.addresses := by
    intro h
    rw [mem_addresses_iff, ← map_node_siteAt?, Option.isSome_map]
    exact Option.isSome_iff_ne_none.2 h
  simp only [placedMembers, List.mem_filterMap, Option.map_eq_some_iff, Option.bind_eq_some_iff,
    Prod.mk.injEq]
  constructor
  · rintro ⟨a, -, m, ⟨s, hs, hm⟩, rfl, rfl⟩
    exact ⟨s, hs, hm⟩
  · rintro ⟨s, hs, hm⟩
    exact ⟨a, hsome (by simp [hs]), m, ⟨s, hs, hm⟩, rfl, rfl⟩

/-- Without their addresses they are the members of the tree. -/
theorem map_snd_placedMembers : (t.placedMembers source).map Prod.snd = t.members source := by
  have hsites : t.members source =
      (t.addresses.map t.siteAt?).filterMap (·.bind (Site.member? source)) := by
    rw [← map_some_sites, List.filterMap_map, members]
    rfl
  rw [hsites, List.filterMap_map, placedMembers, List.map_filterMap]
  congr 1
  funext a
  rw [Option.map_map, Function.comp_apply]
  exact Option.map_id'

theorem mem_members_of_mem (hm : (a, m) ∈ t.placedMembers source) : m ∈ t.members source := by
  rw [← map_snd_placedMembers]
  exact List.mem_map.2 ⟨_, hm, rfl⟩

theorem pairwise_placedMembers : (t.placedMembers source).Pairwise fun p q => p.1 < q.1 := by
  refine (pairwise_addresses t).filterMap _ ?_
  intro a b hlt p hp q hq
  obtain ⟨m, -, rfl⟩ := Option.map_eq_some_iff.1 hp
  obtain ⟨n, -, rfl⟩ := Option.map_eq_some_iff.1 hq
  exact hlt

/-- A node declares a member exactly if there is one at its address. -/
theorem declaresMember_iff_exists {u : Tree} (hu : t.nodeAt? a = some u) :
    u.DeclaresMember ↔ ∃ m, (a, m) ∈ t.placedMembers source := by
  obtain ⟨s, hs, rfl⟩ : ∃ s, t.siteAt? a = some s ∧ s.node = u := by
    rw [← map_node_siteAt?] at hu
    exact Option.map_eq_some_iff.1 hu
  constructor
  · intro hdeclares
    exact ⟨_, mem_placedMembers_iff.2 ⟨s, hs, Site.member?_eq_some_iff.2 ⟨hdeclares, rfl⟩⟩⟩
  · rintro ⟨m, hm⟩
    obtain ⟨s', hs', hmember⟩ := mem_placedMembers_iff.1 hm
    obtain rfl := Option.some.inj (hs.symm.trans hs')
    exact (Site.member?_eq_some_iff.1 hmember).1

theorem nodeAt?_of_mem (hm : (a, m) ∈ t.placedMembers source) : t.nodeAt? a = some m.node := by
  obtain ⟨s, hs, hmember⟩ := mem_placedMembers_iff.1 hm
  obtain ⟨-, rfl⟩ := Site.member?_eq_some_iff.1 hmember
  exact nodeAt?_eq_of_siteAt? hs

theorem declaresMember_of_mem (hm : (a, m) ∈ t.placedMembers source) : m.node.DeclaresMember :=
  (declaresMember_iff_exists (nodeAt?_of_mem hm)).2 ⟨m, hm⟩

/-- A member other than the top is declared behind the named siblings with smaller numbers. -/
theorem exists_site_of_mem (hm : (body ++ [i], m) ∈ t.placedMembers source) :
    ∃ s ∈ t.sites, ∃ parent, t.nodeAt? body = some parent ∧
      s.before = (parent.namedChildren.take i).reverse ∧
      m = { s.toMember with kind := s.memberKind source } := by
  obtain ⟨s, hs, hmember⟩ := mem_placedMembers_iff.1 hm
  obtain ⟨-, rfl⟩ := Site.member?_eq_some_iff.1 hmember
  obtain ⟨parent, hparent, -, hbefore, -⟩ := exists_parent_of_siteAt? hs
  exact ⟨s, mem_sites_of_siteAt? hs, parent, hparent, hbefore, rfl⟩

/-- A member other than the top is declared in the node above it. -/
theorem body?_of_mem (hm : (body ++ [i], m) ∈ t.placedMembers source) :
    m.body? = t.nodeAt? body := by
  obtain ⟨s, hs, hmember⟩ := mem_placedMembers_iff.1 hm
  obtain ⟨-, rfl⟩ := Site.member?_eq_some_iff.1 hmember
  obtain ⟨parent, hparent, -, -, hhead⟩ := exists_parent_of_siteAt? hs
  exact hhead.trans hparent.symm

/-- Earlier siblings that are neither decorators nor comments stay above the head of a member. -/
theorem mem_aboveHead_of_lt (hm : (body ++ [i], m) ∈ t.placedMembers source) (hlt : j < i)
    {u : Tree} (hu : t.nodeAt? (body ++ [j]) = some u) (hcomment : u.kind ≠ .comment)
    (hdecorator : u.kind ≠ .decorator) : u ∈ m.aboveHead := by
  obtain ⟨s, -, parent, hparent, hbefore, rfl⟩ := exists_site_of_mem hm
  rw [nodeAt?_concat, hparent, Option.bind_some, ← List.getElem?_take_of_lt hlt] at hu
  refine Site.mem_aboveHead ?_ hcomment hdecorator
  rw [hbefore]
  exact List.mem_reverse.2 (List.mem_of_getElem? hu)

/-- A sibling among those before a node, and what stands between the two. -/
theorem exists_reverse_take_eq {siblings : List Tree} {d : Tree} (hd : siblings[j]? = some d)
    (hlt : j < i) : ∃ run rest, (siblings.take i).reverse = run ++ d :: rest ∧
      ∀ u ∈ run, ∃ l, j < l ∧ l < i ∧ siblings[l]? = some u := by
  have hcons : (siblings.take i).drop j = d :: (siblings.take i).drop (j + 1) := by
    rw [← List.getElem?_take_of_lt hlt] at hd
    obtain ⟨hj, rfl⟩ := List.getElem?_eq_some_iff.1 hd
    exact List.drop_eq_getElem_cons hj
  refine ⟨((siblings.take i).drop (j + 1)).reverse, ((siblings.take i).take j).reverse, ?_, ?_⟩
  · have hsplit := List.take_append_drop j (siblings.take i)
    rw [hcons] at hsplit
    rw [← congrArg List.reverse hsplit, List.reverse_append, List.reverse_cons, List.append_assoc,
      List.singleton_append]
  · intro u hu
    obtain ⟨l, hl⟩ := List.mem_iff_getElem?.1 (List.mem_reverse.1 hu)
    rw [List.getElem?_drop, List.getElem?_take] at hl
    split at hl
    · next hlast => exact ⟨j + 1 + l, by omega, hlast, hl⟩
    · cases hl

/-- The declarations of the members before it in a body stay above the head of a member. -/
theorem node_mem_aboveHead (hm : (body ++ [i], m) ∈ t.placedMembers source)
    (hn : (body ++ [k], n) ∈ t.placedMembers source) (hlt : i < k) : m.node ∈ n.aboveHead := by
  obtain ⟨hcomment, hdecorator⟩ := (declaresMember_of_mem hm).kind_ne
  exact mem_aboveHead_of_lt hn hlt (nodeAt?_of_mem hm) hcomment hdecorator

/-- No member but the first one of a body has only comments before it. -/
theorem isFirst_eq_false (hm : (body ++ [i], m) ∈ t.placedMembers source)
    (hn : (body ++ [k], n) ∈ t.placedMembers source) (hlt : i < k) : n.isFirst = false := by
  have hcomment := (declaresMember_of_mem hm).kind_ne.1
  rw [Member.isFirst, List.all_eq_false]
  exact ⟨m.node, node_mem_aboveHead hm hn hlt, by simpa using hcomment⟩

/-! ## Ordered trees -/

/-- A node that has another one somewhere below it. -/
def Holds (t u : Tree) : Prop :=
  ∃ c ∈ t.children, u ∈ c.nodes

end Tree

/-- A decorator between the head of a member and its declaration. -/
def Member.IsDecoratedBy (m : Member) (d : Tree) : Prop :=
  d.kind = .decorator ∧ m.start ≤ d.span.start ∧ d.span.stop ≤ m.node.span.start

/-- Of two sites of an ordered tree the later one is below the earlier one or starts behind it. -/
theorem Site.Earlier.holds_or_le {root : Tree} {s u : Site} (h : s.Earlier root u)
    (hroot : root.IsOrdered) :
    s.node.Holds u.node ∨ s.node.span.stop ≤ u.node.span.start := by
  cases h with
  | below hparent hchild =>
    left
    have hnode := hchild.mem_children List.mem_cons_self
    rcases Tree.mem_nodes_iff.1 hparent with rfl | ⟨c, hc, hparent⟩
    · exact ⟨u.node, hnode, Tree.mem_nodes_self _⟩
    · have hbelow := Tree.mem_nodes_of_child hnode (Tree.mem_nodes_self _)
      exact ⟨c, hc, Tree.mem_nodes_trans hparent hbelow⟩
  | @apart parent a b before between around hparent hchild hsa hub =>
    right
    have hsibling : ∀ c ∈ Site.row ⟨b, between ++ a :: before, around⟩, c.IsOrdered := by
      intro c hc
      have hc := Tree.mem_nodes_of_child (hchild.mem_children hc) (Tree.mem_nodes_self c)
      exact hroot.of_mem_nodes (Tree.mem_nodes_trans hparent hc)
    have hle : a.span.stop ≤ b.span.start :=
      (List.pairwise_cons.1 ((hroot.of_mem_nodes hparent).site hchild).pairwise).1 a (by simp)
    have ha := (hsibling a (by simp [Site.row])).within (Tree.node_mem_nodes hsa)
    have hb := (hsibling b (by simp [Site.row])).within (Tree.node_mem_nodes hub)
    exact Nat.le_trans ha.2 (Nat.le_trans hle hb.1)

namespace Tree.IsOrdered

variable {source : Text} {t : Tree} {a body : Address} {i j k : Nat} {m n : Member}
variable (h : t.IsOrdered)
include h

theorem isOrdered_of_mem_sites {s : Site} (hs : s ∈ t.sites) : s.IsOrdered := by
  rcases eq_or_isChild_of_mem_sitesIn hs with rfl | ⟨parent, hparent, hchild⟩
  · exact ⟨by simpa [Site.row] using (h t (mem_nodes_self t)).1, by simp [Site.row]⟩
  · exact (h.of_mem_nodes hparent).site hchild

/-- The head of a member is not behind its declaration, and behind everything above it. -/
theorem head_of_mem_members (hm : m ∈ t.members source) :
    m.start ≤ m.node.span.start ∧ ∀ u ∈ m.aboveHead, u.span.stop ≤ m.start := by
  obtain ⟨s, hs, hmember⟩ := List.mem_filterMap.1 hm
  obtain ⟨-, rfl⟩ := Site.member?_eq_some_iff.1 hmember
  have hordered := h.isOrdered_of_mem_sites hs
  exact ⟨hordered.start_le, fun u hu => hordered.stop_le_of_mem_aboveHead hu⟩

/-- The decorators that only decorators and comments separate from a declaration are those of the
    member. -/
theorem isDecoratedBy_of_run (hm : (body ++ [i], m) ∈ t.placedMembers source) (hlt : j < i)
    {d : Tree} (hd : t.nodeAt? (body ++ [j]) = some d) (hkind : d.kind = .decorator)
    (hrun : ∀ l u, j < l → l < i → t.nodeAt? (body ++ [l]) = some u →
      u.kind = .decorator ∨ u.kind = .comment) : m.IsDecoratedBy d := by
  obtain ⟨s, hs, parent, hparent, hbefore, rfl⟩ := exists_site_of_mem hm
  simp only [nodeAt?_concat, hparent, Option.bind_some] at hd hrun
  obtain ⟨run, rest, hreverse, hbetween⟩ := exists_reverse_take_eq hd hlt
  have hordered := h.isOrdered_of_mem_sites hs
  refine ⟨hkind, hordered.start_le_of_run (hbefore.trans hreverse) ?_ hkind, ?_⟩
  · intro u hu
    obtain ⟨l, hjl, hli, hl⟩ := hbetween u hu
    exact hrun l u hjl hli hl
  · have hmem : d ∈ s.before := by simp [hbefore, hreverse]
    exact (List.pairwise_cons.1 hordered.pairwise).1 d hmem

/-- No decorator is one of two members of a body. -/
theorem not_isDecoratedBy_both (hm : (body ++ [i], m) ∈ t.placedMembers source)
    (hn : (body ++ [k], n) ∈ t.placedMembers source) (hlt : i < k)
    (hpos : m.node.span.start < m.node.span.stop) {d : Tree} (hd : t.nodeAt? a = some d) :
    ¬(m.IsDecoratedBy d ∧ n.IsDecoratedBy d) := by
  rintro ⟨⟨-, -, hbelow⟩, -, habove, -⟩
  -- It would end before the first declaration and start behind it.
  have hhead := h.head_of_mem_members (mem_members_of_mem hn)
  have hstop := hhead.2 m.node (node_mem_aboveHead hm hn hlt)
  have hspan := (h d (mem_nodes_of_nodeAt? hd)).1
  omega

end Tree.IsOrdered

/-! ## All members -/

namespace Tree

variable {source : Text} {t : Tree}

/-- An ordered tree whose members are not empty, and none of which starts where another one around
    it does. -/
structure HasMembersApart (source : Text) (t : Tree) : Prop where
  isOrdered : t.IsOrdered
  start_lt_stop : ∀ m ∈ t.members source, m.node.span.start < m.node.span.stop
  start_ne : ∀ m ∈ t.members source, ∀ n ∈ t.members source, m.node.Holds n.node →
    n.node.span.start ≠ m.node.span.start

/-- Members that are apart are declared one behind the other. -/
theorem HasMembersApart.pairwise_start (h : t.HasMembersApart source) :
    (t.members source).Pairwise fun m n => m.node.span.start < n.node.span.start := by
  have hmem : ∀ s ∈ t.sites, ∀ m, s.member? source = some m → m ∈ t.members source ∧
      m.node = s.node := by
    intro s hs m hm
    refine ⟨List.mem_filterMap.2 ⟨s, hs, hm⟩, ?_⟩
    obtain ⟨-, rfl⟩ := Site.member?_eq_some_iff.1 hm
    rfl
  rw [members, List.pairwise_filterMap]
  refine (pairwise_sites t).imp_of_mem ?_
  intro s u hs hu hearlier m hm n hn
  obtain ⟨hm, hsnode⟩ := hmem s hs m hm
  obtain ⟨hn, hunode⟩ := hmem u hu n hn
  have hcases := hearlier.holds_or_le h.isOrdered
  rw [← hsnode, ← hunode] at hcases
  rcases hcases with hholds | hle
  · -- A member inside the other one does not start before it, and not where it starts.
    have hne := h.start_ne m hm n hn hholds
    obtain ⟨c, hc, hbelow⟩ := hholds
    rw [hsnode] at hc
    have hsite := h.isOrdered.of_mem_nodes (node_mem_nodes hs)
    have hwithin := hsite.within (mem_nodes_of_child hc hbelow)
    rw [← hsnode] at hwithin
    exact Nat.lt_of_le_of_ne hwithin.1 hne.symm
  · exact Nat.lt_of_lt_of_le (h.start_lt_stop m hm) hle

/-- The members of a tree are the nodes that declare one, each of them once and before those inside
    of it, and a visitor is called for each of them. At most one member of a body is the first one.
    If the members are apart, then the declarations start one behind the other. The head of each
    member is at or before the declaration and behind its earlier siblings other than comments and
    decorators, so that the decorators right above a declaration are those of its member and of no
    other one. -/
theorem members_once_in_order (source : Text) (t : Tree) :
    Visitor.collector.walk source t [] = t.members source ∧
    (∀ {σ : Type} (v : Visitor σ) (state : σ), ∃ constructors methods,
      v.counted.walk source t (state, 0, 0) = (v.walk source t state, constructors, methods) ∧
      constructors + methods = (t.members source).length) ∧
    (t.placedMembers source).map Prod.snd = t.members source ∧
    (∀ a m, (a, m) ∈ t.placedMembers source → t.nodeAt? a = some m.node) ∧
    (∀ a u, t.nodeAt? a = some u →
      (u.DeclaresMember ↔ ∃ m, (a, m) ∈ t.placedMembers source)) ∧
    ((t.placedMembers source).map Prod.fst).Nodup ∧
    (t.placedMembers source).Pairwise (fun p q => ¬q.1 <+: p.1) ∧
    (∀ body i m, (body ++ [i], m) ∈ t.placedMembers source → m.body? = t.nodeAt? body) ∧
    (∀ body i k m n, (body ++ [i], m) ∈ t.placedMembers source →
      (body ++ [k], n) ∈ t.placedMembers source → m.isFirst = true → n.isFirst = true → i = k) ∧
    (t.HasMembersApart source →
      (t.members source).Pairwise (fun m n => m.node.span.start < n.node.span.start) ∧
      (∀ m ∈ t.members source, m.start ≤ m.node.span.start) ∧
      (∀ body i j m u, (body ++ [i], m) ∈ t.placedMembers source → j < i →
        t.nodeAt? (body ++ [j]) = some u → u.kind ≠ .comment → u.kind ≠ .decorator →
        u.span.stop ≤ m.start) ∧
      (∀ body i j m d, (body ++ [i], m) ∈ t.placedMembers source → j < i →
        t.nodeAt? (body ++ [j]) = some d → d.kind = .decorator →
        (∀ l u, j < l → l < i → t.nodeAt? (body ++ [l]) = some u →
          u.kind = .decorator ∨ u.kind = .comment) → m.IsDecoratedBy d) ∧
      ∀ body i k m n a d, (body ++ [i], m) ∈ t.placedMembers source →
        (body ++ [k], n) ∈ t.placedMembers source → t.nodeAt? a = some d →
        m.IsDecoratedBy d → n.IsDecoratedBy d → i = k) := by
  refine ⟨?_, fun v state => v.exists_walk_counted source t state, map_snd_placedMembers,
    fun a m => nodeAt?_of_mem, fun a u => declaresMember_iff_exists, ?_, ?_,
    fun body i m => body?_of_mem, ?_, ?_⟩
  · rw [Visitor.walk_eq_foldl, Visitor.foldl_collector, List.nil_append]
  · rw [List.nodup_iff_pairwise_ne, List.pairwise_map]
    refine pairwise_placedMembers.imp ?_
    intro p q hlt heq
    rw [heq] at hlt
    exact List.lt_irrefl _ hlt
  · exact pairwise_placedMembers.imp fun hlt hprefix => hprefix.le hlt
  · intro body i k m n hm hn hfirst hfirst'
    rcases Nat.lt_trichotomy i k with hlt | heq | hlt
    · rw [isFirst_eq_false hm hn hlt] at hfirst'
      cases hfirst'
    · exact heq
    · rw [isFirst_eq_false hn hm hlt] at hfirst
      cases hfirst
  · intro hapart
    have h := hapart.isOrdered
    refine ⟨hapart.pairwise_start, fun m hm => (h.head_of_mem_members hm).1, ?_, ?_, ?_⟩
    · intro body i j m u hm hlt hu hcomment hdecorator
      have habove := mem_aboveHead_of_lt hm hlt hu hcomment hdecorator
      exact (h.head_of_mem_members (mem_members_of_mem hm)).2 u habove
    · intro body i j m d hm hlt hd hkind hrun
      exact h.isDecoratedBy_of_run hm hlt hd hkind hrun
    · intro body i k m n a d hm hn hd hmd hnd
      rcases Nat.lt_trichotomy i k with hlt | heq | hlt
      · have hpos := hapart.start_lt_stop m (mem_members_of_mem hm)
        exact absurd ⟨hmd, hnd⟩ (h.not_isDecoratedBy_both hm hn hlt hpos hd)
      · exact heq
      · have hpos := hapart.start_lt_stop n (mem_members_of_mem hn)
        exact absurd ⟨hnd, hmd⟩ (h.not_isDecoratedBy_both hn hm hlt hpos hd)

end Tree

/-! ## A method inside a decorated one -/

namespace Enclosed

def source : Text :=
  "class A \x7b@d m()\x7bclass B\x7bk()\x7b\x7d\x7d\x7d/**/@e n()\x7b\x7d\x7d".toList

/-- The body of the class inside the method. -/
def inner : Tree where
  kind := .classBody
  span := ⟨23, 30⟩
  children := [{ kind := .methodDefinition, span := ⟨24, 29⟩ }]

def body : Tree where
  kind := .classBody
  span := ⟨8, 44⟩
  children := [
    { kind := .word "\x7b", span := ⟨8, 9⟩ },
    { kind := .decorator, span := ⟨9, 11⟩ },
    .ofChildren .methodDefinition ⟨12, 31⟩ [.ofChildren .classDeclaration ⟨16, 30⟩ [inner]],
    { kind := .comment, span := ⟨31, 35⟩ },
    { kind := .decorator, span := ⟨35, 37⟩ },
    { kind := .methodDefinition, span := ⟨38, 43⟩ },
    { kind := .word "\x7d", span := ⟨43, 44⟩ }]

def tree : Tree :=
  .ofChildren .program ⟨0, 44⟩ [.ofChildren .classDeclaration ⟨0, 44⟩ [body]]

theorem hasMembersApart : tree.HasMembersApart source where
  isOrdered := by
    unfold Tree.IsOrdered Span.Within
    decide
  start_lt_stop := by decide
  start_ne := by
    have hbelow : ∀ m ∈ tree.members source, ∀ c ∈ m.node.children, ∀ u ∈ c.nodes,
        u.span.start ≠ m.node.span.start := by decide
    rintro m hm n - ⟨c, hc, hn⟩
    exact hbelow m hm c hc n.node hn

/-- The second decorator is that of the second method of the outer class, and not of the first. -/
theorem members_once_in_order_enclosed :
    (tree.placedMembers source).map (fun p => (p.1, p.2.start, p.2.node.span.start, p.2.isFirst)) =
      [([0, 0, 1], 9, 12, true), ([0, 0, 1, 0, 0, 0], 24, 24, true), ([0, 0, 4], 35, 38, false)] ∧
    (tree.members source).Pairwise (fun m n => m.node.span.start < n.node.span.start) ∧
    ∀ m n d, ([0, 0, 1], m) ∈ tree.placedMembers source →
      ([0, 0, 4], n) ∈ tree.placedMembers source → tree.nodeAt? [0, 0, 3] = some d →
      d.kind = .decorator ∧ n.IsDecoratedBy d ∧ ¬m.IsDecoratedBy d := by
  obtain ⟨-, -, -, -, -, -, -, -, -, hapart⟩ := Tree.members_once_in_order source tree
  obtain ⟨hstarts, -, -, hrun, hboth⟩ := hapart hasMembersApart
  refine ⟨by decide, hstarts, ?_⟩
  intro m n d hm hn hd
  have hkind : d.kind = .decorator := by
    obtain rfl := Option.some.inj hd
    rfl
  have hdecorates : n.IsDecoratedBy d :=
    hrun [0, 0] 4 3 n d hn (by decide) hd hkind (fun l u hlow hhigh => by omega)
  refine ⟨hkind, hdecorates, fun hm' => ?_⟩
  have heq := hboth [0, 0] 1 4 m n _ d hm hn hd hm' hdecorates
  exact absurd heq (by decide)

end Enclosed

end ClassSpacing
