import ClassSpacing.Proofs.Tree.Sites

/-!
# The addresses of the sites of a tree

An address says which named child to go to, from the top of a tree down. Two nodes of a tree may
look the same; their addresses differ. `Tree.sites` holds one site for each address that leads to a
node, in the order of the addresses, where an address comes before those that start with it.
-/

namespace ClassSpacing

/-- Which named child to go to at each node on the way from the top of a tree. -/
abbrev Address := List Nat

namespace Tree

/-- The children that stand for constructs or comments. -/
def namedChildren (t : Tree) : List Tree :=
  t.children.filter (·.isNamed)

/-- The node at an address. -/
def nodeAt? (t : Tree) : Address → Option Tree
  | [] => some t
  | i :: rest => t.namedChildren[i]?.bind (nodeAt? · rest)

/-- The site at an address of a tree that stands in the given surroundings. -/
def siteIn? (before around : List Tree) (t : Tree) : Address → Option Site
  | [] => some ⟨t, before, around⟩
  | i :: rest => t.namedChildren[i]?.bind fun c =>
      siteIn? (t.namedChildren.take i).reverse (t :: around) c rest

/-- The site at an address. -/
def siteAt? (t : Tree) (a : Address) : Option Site :=
  siteIn? [] [] t a

mutual

/-- The addresses of a tree, each of them before those that start with it. -/
def addresses : Tree → List Address
  | ⟨_, _, _, _, _, children⟩ => [] :: addressesFrom 0 children

/-- The addresses that go through some siblings, where `i` is the number of the first named one. -/
def addressesFrom (i : Nat) : List Tree → List Address
  | [] => []
  | t :: rest =>
    if t.isNamed then t.addresses.map (i :: ·) ++ addressesFrom (i + 1) rest
    else addressesFrom i rest

end

theorem addresses_eq (t : Tree) : t.addresses = [] :: addressesFrom 0 t.children := by
  cases t
  rw [addresses]

/-! ## Nodes and sites at addresses -/

variable {t : Tree} {before around : List Tree}

theorem map_node_siteIn? (a : Address) :
    (siteIn? before around t a).map Site.node = t.nodeAt? a := by
  induction a generalizing before around t with
  | nil => rfl
  | cons i rest ih =>
    rw [siteIn?, nodeAt?, Option.map_bind]
    exact congrArg _ (funext fun c => ih)

theorem map_node_siteAt? (t : Tree) (a : Address) : (t.siteAt? a).map Site.node = t.nodeAt? a :=
  map_node_siteIn? a

theorem nodeAt?_eq_of_siteAt? {a : Address} {s : Site} (h : t.siteAt? a = some s) :
    t.nodeAt? a = some s.node := by
  rw [← map_node_siteAt?, h, Option.map_some]

/-- One step further down. -/
theorem nodeAt?_concat (a : Address) (i : Nat) :
    t.nodeAt? (a ++ [i]) = (t.nodeAt? a).bind (·.namedChildren[i]?) := by
  induction a generalizing t with
  | nil => simp [nodeAt?]
  | cons j rest ih =>
    rw [List.cons_append, nodeAt?, nodeAt?, Option.bind_assoc]
    exact congrArg _ (funext fun c => ih)

/-- A site other than the top stands behind the named siblings with smaller numbers. -/
theorem siteIn?_concat (a : Address) (i : Nat) :
    siteIn? before around t (a ++ [i]) = (siteIn? before around t a).bind fun s =>
      s.node.namedChildren[i]?.map fun c =>
        ⟨c, (s.node.namedChildren.take i).reverse, s.node :: s.around⟩ := by
  induction a generalizing before around t with
  | nil =>
    simp only [List.nil_append, siteIn?, Option.bind_some, Option.map_eq_bind]
    rfl
  | cons j rest ih =>
    rw [List.cons_append, siteIn?, siteIn?, Option.bind_assoc]
    exact congrArg _ (funext fun c => ih)

/-- The surroundings of a site other than the top. -/
theorem exists_parent_of_siteAt? {a : Address} {i : Nat} {s : Site}
    (h : t.siteAt? (a ++ [i]) = some s) :
    ∃ parent, t.nodeAt? a = some parent ∧ parent.namedChildren[i]? = some s.node ∧
      s.before = (parent.namedChildren.take i).reverse ∧ s.around.head? = some parent := by
  rw [siteAt?, siteIn?_concat, ← siteAt?] at h
  obtain ⟨above, habove, hstep⟩ := Option.bind_eq_some_iff.1 h
  obtain ⟨c, hc, rfl⟩ := Option.map_eq_some_iff.1 hstep
  exact ⟨above.node, nodeAt?_eq_of_siteAt? habove, hc, rfl, rfl⟩

/-! ## All addresses -/

/-- The walk over some children of a node comes to the sites at their addresses. -/
theorem map_some_sitesInList {parent : Tree} {ts : List Tree} (before above : List Tree)
    (hparent : parent.namedChildren = before.reverse ++ ts.filter (·.isNamed))
    (h : ∀ t ∈ ts, ∀ before around,
      (t.sitesIn before around).map some = t.addresses.map (siteIn? before around t)) :
    (sitesInList (parent :: around) before ts).map some =
      (addressesFrom before.length ts).map (siteIn? above around parent) := by
  induction ts generalizing before with
  | nil => simp [sitesInList, addressesFrom]
  | cons t rest ih =>
    rw [List.forall_mem_cons] at h
    rw [sitesInList, addressesFrom]
    split
    · next hnamed =>
      rw [List.filter_cons_of_pos hnamed] at hparent
      have hchild : parent.namedChildren[before.length]? = some t := by simp [hparent]
      have htake : (parent.namedChildren.take before.length).reverse = before := by simp [hparent]
      have hrest := ih (t :: before) (by simp [hparent]) h.2
      rw [List.length_cons] at hrest
      rw [List.map_append, List.map_append, hrest, h.1, List.map_map]
      congr 1
      refine List.map_congr_left fun a _ => ?_
      rw [Function.comp_apply, siteIn?, hchild, Option.bind_some, htake]
    · next hnamed =>
      rw [List.filter_cons_of_neg hnamed] at hparent
      exact ih before hparent h.2

/-- The walk over a tree comes to the sites at its addresses. -/
theorem map_some_sitesIn (t : Tree) (before around : List Tree) :
    (t.sitesIn before around).map some = t.addresses.map (siteIn? before around t) := by
  induction t using childInduction generalizing before around with
  | step t ih =>
    rw [sitesIn_eq, addresses_eq, List.map_cons, List.map_cons]
    exact congrArg _ (map_some_sitesInList [] before rfl ih)

theorem map_some_sites (t : Tree) : t.sites.map some = t.addresses.map t.siteAt? :=
  map_some_sitesIn t [] []

/-- The addresses through some siblings lead on from one of them. -/
theorem mem_addressesFrom_iff {k : Nat} {ts : List Tree} {a : Address} :
    a ∈ addressesFrom k ts ↔ ∃ i c rest, a = (k + i) :: rest ∧
      (ts.filter (·.isNamed))[i]? = some c ∧ rest ∈ c.addresses := by
  induction ts generalizing k with
  | nil => simp [addressesFrom]
  | cons t ts ih =>
    rw [addressesFrom]
    split
    · next hnamed =>
      rw [List.mem_append, ih, List.filter_cons_of_pos hnamed, List.mem_map]
      constructor
      · rintro (⟨rest, hrest, rfl⟩ | ⟨i, c, rest, rfl, hc, hrest⟩)
        · exact ⟨0, t, rest, rfl, rfl, hrest⟩
        · exact ⟨i + 1, c, rest, by rw [Nat.add_right_comm, Nat.add_assoc], hc, hrest⟩
      · rintro ⟨i, c, rest, rfl, hc, hrest⟩
        cases i with
        | zero =>
          obtain rfl := Option.some.inj hc
          exact .inl ⟨rest, hrest, rfl⟩
        | succ i => exact .inr ⟨i, c, rest, by rw [Nat.add_right_comm, Nat.add_assoc], hc, hrest⟩
    · next hnamed => rw [ih, List.filter_cons_of_neg hnamed]

/-- The addresses of a tree are those that lead to a node. -/
theorem mem_addresses_iff {a : Address} : a ∈ t.addresses ↔ (t.nodeAt? a).isSome = true := by
  induction a generalizing t with
  | nil => simp [addresses_eq, nodeAt?]
  | cons i rest ih =>
    rw [addresses_eq, List.mem_cons, mem_addressesFrom_iff, nodeAt?, ← namedChildren]
    cases hchild : t.namedChildren[i]? with
    | none => simp [hchild]
    | some c => simp [hchild, ih]

theorem mem_sites_of_siteAt? {a : Address} {s : Site} (h : t.siteAt? a = some s) :
    s ∈ t.sites := by
  have ha : a ∈ t.addresses := by simp [mem_addresses_iff, nodeAt?_eq_of_siteAt? h]
  have hsome : some s ∈ t.sites.map some := by
    rw [map_some_sites]
    exact List.mem_map.2 ⟨a, ha, h⟩
  simpa using hsome

theorem mem_nodes_of_nodeAt? {a : Address} {u : Tree} (h : t.nodeAt? a = some u) :
    u ∈ t.nodes := by
  rw [← map_node_siteAt?] at h
  obtain ⟨s, hs, rfl⟩ := Option.map_eq_some_iff.1 h
  exact node_mem_nodes (mem_sites_of_siteAt? hs)

/-! ## The order of addresses -/

theorem pairwise_addressesFrom {k : Nat} {ts : List Tree}
    (h : ∀ t ∈ ts, t.addresses.Pairwise (· < ·)) : (addressesFrom k ts).Pairwise (· < ·) := by
  induction ts generalizing k with
  | nil => simp [addressesFrom]
  | cons t ts ih =>
    rw [List.forall_mem_cons] at h
    rw [addressesFrom]
    split
    · refine List.pairwise_append.2 ⟨List.pairwise_map.2 ?_, ih h.2, ?_⟩
      · exact h.1.imp fun hab => List.cons_lt_cons_iff.2 (.inr ⟨rfl, hab⟩)
      · rintro a ha b hb
        obtain ⟨rest, -, rfl⟩ := List.mem_map.1 ha
        obtain ⟨i, c, rest', rfl, -, -⟩ := mem_addressesFrom_iff.1 hb
        exact List.cons_lt_cons_iff.2 (.inl (by omega))
    · exact ih h.2

/-- The addresses of a tree are in lexicographic order. -/
theorem pairwise_addresses (t : Tree) : t.addresses.Pairwise (· < ·) := by
  induction t using childInduction with
  | step t ih =>
    rw [addresses_eq]
    refine List.pairwise_cons.2 ⟨?_, pairwise_addressesFrom ih⟩
    intro a ha
    obtain ⟨i, c, rest, rfl, -, -⟩ := mem_addressesFrom_iff.1 ha
    exact List.nil_lt_cons _ rest

end Tree

end ClassSpacing
