import ClassSpacing.Workspace.Collect

/-!
# Collected files

Paths are ordered by their components. The collected files are the paths that the given ones are
expanded to, in that order, with one path for each list of components: `exists_mem_collect` and
`nodup_map_components`.
-/

namespace ClassSpacing

open Std (TransCmp OrientedCmp LawfulEqCmp)

/-! ## The order of paths -/

namespace Path

theorem Component.compare_swap (a b : Component) : a.compare b = (b.compare a).swap := by
  cases a <;> cases b <;> try rfl
  exact (inferInstance : OrientedCmp (Ord.compare : Bytes → Bytes → Ordering)).eq_swap

/-- Only the order of names is more than a list of cases. -/
instance : TransCmp Component.compare where
  eq_swap := Component.compare_swap _ _
  isLE_trans := by
    intro a b c hab hbc
    cases a <;> cases b <;> cases c <;> simp_all [Component.compare]
    exact TransCmp.isLE_trans hab hbc

instance : LawfulEqCmp Component.compare where
  compare_self := by
    intro a
    cases a <;> simp [Component.compare]
  eq_of_compare := by
    intro a b h
    cases a <;> cases b <;> simp_all [Component.compare, RawText.ext_iff]

theorem compareComponents_eq_compareLex (as bs : List Component) :
    compareComponents as bs = List.compareLex Component.compare as bs := by
  induction as generalizing bs with
  | nil => cases bs <;> rfl
  | cons a as ih =>
    cases bs with
    | nil => rfl
    | cons b bs => rw [compareComponents, List.compareLex_cons_cons, ih]

theorem compare_eq_compareLex (p q : Path) :
    p.compare q = List.compareLex Component.compare p.components q.components :=
  compareComponents_eq_compareLex _ _

instance : TransCmp Path.compare where
  eq_swap := by
    intro p q
    rw [compare_eq_compareLex, compare_eq_compareLex]
    exact OrientedCmp.eq_swap
  isLE_trans := by
    intro p q r
    simp only [compare_eq_compareLex]
    exact TransCmp.isLE_trans

/-- Paths are equal in the order if they have the same components. -/
theorem compare_eq_iff {p q : Path} : p.compare q = .eq ↔ p.components = q.components := by
  rw [compare_eq_compareLex]
  exact LawfulEqCmp.compare_eq_iff_eq

end Path

namespace Workspace

/-! ## Dropping repeated paths -/

variable {p q last : Path} {rest paths files : List Path} {ws : Workspace}

/-- What is left behind a path is larger, strictly increasing, and has the components of all that
    was there. -/
theorem dropRepeatedAfter_spec (h : (last :: rest).Pairwise fun p q => (p.compare q).isLE = true) :
    (last :: dropRepeatedAfter last rest).Pairwise (fun p q => p.compare q = .lt) ∧
      (dropRepeatedAfter last rest).Sublist rest ∧
      ∀ q ∈ rest, ∃ p ∈ last :: dropRepeatedAfter last rest, p.components = q.components := by
  induction rest generalizing last with
  | nil => simp [dropRepeatedAfter]
  | cons q rest ih =>
    rw [List.pairwise_cons, List.pairwise_cons, List.forall_mem_cons] at h
    obtain ⟨⟨hle, hlast⟩, hq, hrest⟩ := h
    rw [dropRepeatedAfter]
    by_cases heq : last.compare q = .eq
    · rw [if_pos heq]
      obtain ⟨hsorted, hsublist, hcomponents⟩ := ih (List.pairwise_cons.2 ⟨hlast, hrest⟩)
      refine ⟨hsorted, hsublist.cons q, ?_⟩
      rw [List.forall_mem_cons]
      exact ⟨⟨last, List.mem_cons_self, Path.compare_eq_iff.1 heq⟩, hcomponents⟩
    · rw [if_neg heq]
      obtain ⟨hsorted, hsublist, hcomponents⟩ := ih (List.pairwise_cons.2 ⟨hq, hrest⟩)
      have hlt : last.compare q = .lt := by
        revert hle heq
        cases last.compare q <;> simp
      refine ⟨List.pairwise_cons.2 ⟨?_, hsorted⟩, hsublist.cons_cons q, ?_⟩
      · rw [List.forall_mem_cons]
        exact ⟨hlt, fun r hr => TransCmp.lt_trans hlt ((List.pairwise_cons.1 hsorted).1 r hr)⟩
      · rw [List.forall_mem_cons]
        refine ⟨⟨q, by simp, rfl⟩, fun r hr => ?_⟩
        obtain ⟨p, hp, hpr⟩ := hcomponents r hr
        exact ⟨p, List.mem_cons_of_mem _ hp, hpr⟩

theorem dropRepeated_spec (h : paths.Pairwise fun p q => (p.compare q).isLE = true) :
    (dropRepeated paths).Pairwise (fun p q => p.compare q = .lt) ∧
      (dropRepeated paths).Sublist paths ∧
      ∀ q ∈ paths, ∃ p ∈ dropRepeated paths, p.components = q.components := by
  cases paths with
  | nil => simp [dropRepeated]
  | cons last rest =>
    obtain ⟨hsorted, hsublist, hcomponents⟩ := dropRepeatedAfter_spec h
    refine ⟨hsorted, hsublist.cons_cons last, ?_⟩
    rw [List.forall_mem_cons]
    exact ⟨⟨last, List.mem_cons_self, rfl⟩, hcomponents⟩

/-! ## All collected files -/

theorem pairwise_mergeSort_isLE (paths : List Path) :
    (paths.mergeSort fun p q => p.compare q != .gt).Pairwise
      fun p q => (p.compare q).isLE = true := by
  have hle : ∀ p q : Path, (p.compare q != .gt) = (p.compare q).isLE := by
    intro p q
    cases p.compare q <;> rfl
  simp only [hle]
  refine List.pairwise_mergeSort (fun _ _ _ => TransCmp.isLE_trans) (fun p q => ?_) paths
  have hswap : q.compare p = (p.compare q).swap := OrientedCmp.eq_swap
  rw [hswap]
  cases p.compare q <;> rfl

theorem collect_eq_ok_iff :
    ws.collect paths = .ok files ↔ (∀ p ∈ paths, ws.collectFault? p = none) ∧
      files = dropRepeated ((paths.flatMap ws.expand).mergeSort fun p q => p.compare q != .gt) := by
  rw [← List.findSome?_eq_none_iff, collect]
  cases paths.findSome? ws.collectFault? <;> simp [eq_comm]

/-- The collected files are in strictly increasing order. -/
theorem pairwise_collect (h : ws.collect paths = .ok files) :
    files.Pairwise fun p q => p.compare q = .lt := by
  rw [(collect_eq_ok_iff.1 h).2]
  exact (dropRepeated_spec (pairwise_mergeSort_isLE _)).1

/-- Every collected file is one that a path stands for. -/
theorem mem_expand_of_mem_collect (h : ws.collect paths = .ok files) (hp : p ∈ files) :
    p ∈ paths.flatMap ws.expand := by
  rw [(collect_eq_ok_iff.1 h).2] at hp
  exact List.mem_mergeSort.1 ((dropRepeated_spec (pairwise_mergeSort_isLE _)).2.1.subset hp)

/-- Every file that a path stands for is collected, in some way to write its components. -/
theorem exists_mem_collect (h : ws.collect paths = .ok files) (hq : q ∈ paths.flatMap ws.expand) :
    ∃ p ∈ files, p.components = q.components := by
  rw [(collect_eq_ok_iff.1 h).2]
  exact (dropRepeated_spec (pairwise_mergeSort_isLE _)).2.2 q (List.mem_mergeSort.2 hq)

/-- No two collected files have the same components. -/
theorem nodup_map_components (h : ws.collect paths = .ok files) :
    (files.map Path.components).Nodup := by
  refine List.pairwise_map.2 ((pairwise_collect h).imp fun hlt heq => ?_)
  rw [Path.compare_eq_iff.2 heq] at hlt
  cases hlt

end Workspace

end ClassSpacing
