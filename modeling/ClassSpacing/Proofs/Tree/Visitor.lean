import ClassSpacing.Tree.Visitor
import ClassSpacing.Proofs.Tree.Sites

/-!
# What visitors see

A walk hands a visitor the members of a tree, in the order of `Tree.members`: it is a fold over
them. So every visitor is called once for each member, whatever it does with them.
-/

namespace ClassSpacing

namespace Visitor

variable {σ : Type} {v : Visitor σ} {source : Text}

theorem walkInList_eq_foldl {around before ts : List Tree} {state : σ}
    (h : ∀ t ∈ ts, ∀ before around state, v.walkIn source before around state t =
      (t.sitesIn before around).foldl (v.visitSite source) state) :
    v.walkInList source around before state ts =
      (Tree.sitesInList around before ts).foldl (v.visitSite source) state := by
  induction ts generalizing before state with
  | nil => rw [walkInList, Tree.sitesInList, List.foldl_nil]
  | cons t rest ih =>
    rw [List.forall_mem_cons] at h
    rw [walkInList, Tree.sitesInList]
    split
    · rw [List.foldl_append, ← h.1, ih h.2]
    · exact ih h.2

/-- A walk visits the sites of a tree one after the other. -/
theorem walkIn_eq_foldl (t : Tree) (before around : List Tree) (state : σ) :
    v.walkIn source before around state t =
      (t.sitesIn before around).foldl (v.visitSite source) state := by
  induction t using Tree.childInduction generalizing before around state with
  | step t ih =>
    rw [Tree.sitesIn_eq, List.foldl_cons, ← walkInList_eq_foldl ih]
    cases t
    rw [walkIn]

/-- A walk visits the members of a tree one after the other. -/
theorem walk_eq_foldl (t : Tree) (state : σ) :
    v.walk source t state = (t.members source).foldl v.visit state := by
  rw [walk, walkIn_eq_foldl, Tree.members, List.foldl_filterMap, Tree.sites]
  congr 1
  funext state s
  rw [visitSite]
  cases s.member? source <;> rfl

theorem foldl_collector (members found : List Member) :
    members.foldl collector.visit found = found ++ members := by
  induction members generalizing found with
  | nil => simp
  | cons m rest ih =>
    have hvisit : collector.visit found m = found ++ [m] := by
      rw [visit]
      cases m.kind <;> rfl
    rw [List.foldl_cons, hvisit, ih, List.append_assoc, List.singleton_append]

/-- Each member counts for one call. -/
theorem foldl_counted (members : List Member) (state : σ) (constructors methods : Nat) :
    members.foldl v.counted.visit (state, constructors, methods) =
      (members.foldl v.visit state, constructors + members.countP (·.kind == .constructor),
        methods + members.countP (·.kind == .method)) := by
  induction members generalizing state constructors methods with
  | nil => rfl
  | cons m rest ih =>
    cases hkind : m.kind with
    | constructor =>
      have hvisit : v.counted.visit (state, constructors, methods) m =
          (v.visit state m, constructors + 1, methods) := by
        simp only [visit, hkind, counted]
      rw [List.foldl_cons, List.foldl_cons, hvisit, ih]
      simp [hkind, Nat.add_assoc, Nat.add_comm 1]
    | method =>
      have hvisit : v.counted.visit (state, constructors, methods) m =
          (v.visit state m, constructors, methods + 1) := by
        simp only [visit, hkind, counted]
      rw [List.foldl_cons, List.foldl_cons, hvisit, ih]
      simp [hkind, Nat.add_assoc, Nat.add_comm 1]

/-- The two callbacks of a visitor are called as often as there are members. -/
theorem exists_walk_counted (v : Visitor σ) (source : Text) (t : Tree) (state : σ) :
    ∃ constructors methods,
      v.counted.walk source t (state, 0, 0) = (v.walk source t state, constructors, methods) ∧
      constructors + methods = (t.members source).length := by
  refine ⟨_, _, by rw [walk_eq_foldl, foldl_counted, ← walk_eq_foldl], ?_⟩
  have hkinds : (fun m : Member => m.kind == .method) =
      fun m => decide ¬(m.kind == .constructor) = true := by
    funext m
    cases m.kind <;> rfl
  rw [hkinds, Nat.zero_add, Nat.zero_add]
  exact (List.length_eq_countP_add_countP _).symm

end Visitor

end ClassSpacing
