import ClassSpacing.Proofs.Tree.Shift
import Mathlib.Data.List.Basic

/-!
# All faults of a tree

The walk for the faults of a tree does not enter nodes that are not marked. Where the marks are
right, it still finds every fault once, in the order of the nodes. A new version of a source is
accepted exactly if it has no more faults than the old one.
-/

namespace ClassSpacing

namespace Tree

mutual

/-- The nodes of a tree, each of them before those below it. -/
def nodes : Tree → List Tree
  | ⟨kind, span, isName, isMissing, hasFault, children⟩ =>
    ⟨kind, span, isName, isMissing, hasFault, children⟩ :: nodesOf children

/-- The nodes of some trees. -/
def nodesOf : List Tree → List Tree
  | [] => []
  | t :: rest => t.nodes ++ nodesOf rest

end

theorem nodes_eq (t : Tree) : t.nodes = t :: nodesOf t.children := by
  cases t
  rw [nodes]

theorem nodesOf_append (ts us : List Tree) : nodesOf (ts ++ us) = nodesOf ts ++ nodesOf us := by
  induction ts with
  | nil => simp [nodesOf]
  | cons t ts ih => simp [nodesOf, ih]

theorem mem_nodesOf {u : Tree} {ts : List Tree} : u ∈ nodesOf ts ↔ ∃ t ∈ ts, u ∈ t.nodes := by
  induction ts with
  | nil => simp [nodesOf]
  | cons t ts ih => simp [nodesOf, ih]

/-- Each node is marked exactly if it is a fault or has one below it. -/
def MarksFaults (t : Tree) : Prop :=
  ∀ u ∈ t.nodes, u.hasFault = u.nodes.any isFault

theorem MarksFaults.child {t u : Tree} (h : t.MarksFaults) (hu : u ∈ t.children) :
    u.MarksFaults := by
  intro v hv
  refine h v ?_
  rw [nodes_eq]
  exact List.mem_cons_of_mem _ (mem_nodesOf.2 ⟨u, hu, hv⟩)

/-- Below a node that is not marked there is no fault. -/
theorem MarksFaults.filter_eq_nil {t : Tree} (h : t.MarksFaults) (hmark : t.hasFault = false) :
    t.isFault = false ∧ (nodesOf t.children).filter isFault = [] := by
  have hself := h t (by rw [nodes_eq]; exact List.mem_cons_self)
  rw [hmark, nodes_eq, List.any_cons, eq_comm, Bool.or_eq_false_iff] at hself
  refine ⟨hself.1, List.filter_eq_nil_iff.2 fun u hu => ?_⟩
  simpa using List.any_eq_false.1 hself.2 u hu

theorem faultsFrom_eq {ts : List Tree} (h : ∀ t ∈ ts, t.MarksFaults) :
    faultsFrom ts = ((nodesOf ts).filter isFault).map span := by
  fun_induction faultsFrom ts with
  | case1 => rfl
  | case2 t rest ih =>
    rw [List.forall_mem_cons] at h
    rw [dite_eq_ite] at ih
    rw [nodesOf, nodes_eq, List.filter_append, List.filter_cons]
    by_cases hmark : t.hasFault = true
    · simp only [if_pos hmark] at ih ⊢
      have hrest : ∀ u ∈ t.children ++ rest, u.MarksFaults := by
        intro u hu
        rcases List.mem_append.1 hu with hu | hu
        · exact h.1.child hu
        · exact h.2 u hu
      rw [ih hrest, nodesOf_append, List.filter_append]
      by_cases hfault : t.isFault = true <;> simp [hfault]
    · simp only [if_neg hmark] at ih ⊢
      obtain ⟨hfault, hbelow⟩ := h.1.filter_eq_nil (by simpa using hmark)
      simp [ih h.2, hfault, hbelow]

/-- All faults of a tree with the right marks are found, each of them once. -/
theorem MarksFaults.faults_eq {t : Tree} (h : t.MarksFaults) :
    t.faults = (t.nodes.filter isFault).map span := by
  rw [faults, faultsFrom_eq (by simpa using h), nodesOf, nodesOf, List.append_nil]

/-- The number of nodes that are faults. -/
def faultCount (t : Tree) : Nat :=
  t.nodes.countP isFault

theorem MarksFaults.length_faults {t : Tree} (h : t.MarksFaults) :
    t.faults.length = t.faultCount := by
  rw [h.faults_eq, List.length_map, faultCount, List.countP_eq_length_filter]

mutual

theorem nodes_shift (move : Nat → Nat) :
    ∀ t : Tree, (t.shift move).nodes = t.nodes.map (shift move)
  | ⟨kind, span, isName, isMissing, hasFault, children⟩ => by
    rw [shift, nodes, nodes, nodesOf_shiftList move children, List.map_cons, shift]

theorem nodesOf_shiftList (move : Nat → Nat) :
    ∀ ts : List Tree, nodesOf (shiftList move ts) = (nodesOf ts).map (shift move)
  | [] => by simp [shiftList, nodesOf]
  | t :: rest => by
    rw [shiftList, nodesOf, nodesOf, nodes_shift move t, nodesOf_shiftList move rest,
      List.map_append]

end

/-- The marks of a moved tree are as right as before. -/
theorem MarksFaults.shift {t : Tree} (h : t.MarksFaults) (move : Nat → Nat) :
    (t.shift move).MarksFaults := by
  intro u hu
  rw [nodes_shift] at hu
  obtain ⟨v, hv, rfl⟩ := List.mem_map.1 hu
  rw [hasFault_shift, nodes_shift, List.any_map, h v hv]
  congr 1
  funext w
  exact (isFault_shift move w).symm

end Tree

namespace Reader

variable {read : Reader} {dialect : Dialect} {old new : Text}

theorem validateChange_eq_ok_iff :
    read.validateChange dialect old new = .ok () ↔
      (read dialect new).faults.length ≤ (read dialect old).faults.length := by
  simp only [validateChange]
  split
  · rename_i hle
    simp [hle]
  · rename_i hle
    split <;> simp [hle]

/-- A text that stays as it is is accepted. -/
theorem validateChange_self (text : Text) : read.validateChange dialect text text = .ok () :=
  validateChange_eq_ok_iff.2 (Nat.le_refl _)

end Reader

end ClassSpacing
