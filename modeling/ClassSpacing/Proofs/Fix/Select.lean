import ClassSpacing.Fixer
import Mathlib.Data.List.Chain

/-!
# The fixes of one pass

A pass looks at the fixes in the order of their starts, longer ones first, and takes each one that
does not overlap the one taken before. Those that are taken are in the order of their starts, and
neighbours do not overlap; they stand one behind the other unless one of them is an insertion at the
start of a longer one. Those that are left out overlap one that is taken.
-/

namespace ClassSpacing.Fix

/-! ## The order of fixes -/

theorem precedes_trans (f g h : Fix) (hfg : f.precedes g = true) (hgh : g.precedes h = true) :
    f.precedes h = true := by
  simp only [precedes, Bool.or_eq_true, Bool.and_eq_true, decide_eq_true_eq, beq_iff_eq] at *
  omega

theorem precedes_total (f g : Fix) : (f.precedes g || g.precedes f) = true := by
  simp only [precedes, Bool.or_eq_true, Bool.and_eq_true, decide_eq_true_eq, beq_iff_eq]
  omega

theorem offset_le_of_precedes {f g : Fix} (h : f.precedes g = true) : f.offset ≤ g.offset := by
  simp only [precedes, Bool.or_eq_true, Bool.and_eq_true, decide_eq_true_eq, beq_iff_eq] at h
  omega

/-- Sorting puts the fixes in the order of their starts. -/
theorem pairwise_mergeSort_precedes (fixes : List Fix) :
    (fixes.mergeSort precedes).Pairwise (·.offset ≤ ·.offset) :=
  (List.pairwise_mergeSort precedes_trans precedes_total fixes).imp offset_le_of_precedes

theorem not_overlaps_iff {f g : Fix} :
    f.overlaps g = false ↔ g.stop ≤ f.offset ∨ f.stop ≤ g.offset := by
  simp only [overlaps, Bool.and_eq_false_iff, decide_eq_false_iff_not]
  omega

/-! ## What is taken -/

theorem selectAfter_sublist (last? : Option Fix) (fixes : List Fix) :
    (selectAfter last? fixes).Sublist fixes := by
  induction fixes generalizing last? with
  | nil => exact List.Sublist.slnil
  | cons f rest ih =>
    rw [selectAfter]
    split
    · exact (ih last?).cons f
    · exact (ih (some f)).cons_cons f

theorem mem_of_mem_select {fixes : List Fix} {f : Fix} (h : f ∈ select fixes) : f ∈ fixes :=
  List.mem_mergeSort.1 ((selectAfter_sublist none _).subset h)

theorem pairwise_precedes_select (fixes : List Fix) :
    (select fixes).Pairwise (fun f g => f.precedes g = true) :=
  (List.pairwise_mergeSort precedes_trans precedes_total fixes).sublist (selectAfter_sublist none _)

theorem pairwise_offset_select (fixes : List Fix) :
    (select fixes).Pairwise (·.offset ≤ ·.offset) :=
  (pairwise_precedes_select fixes).imp offset_le_of_precedes

/-- Something is taken if there is something to take. -/
theorem select_ne_nil {fixes : List Fix} (h : fixes ≠ []) : select fixes ≠ [] := by
  have hsort : fixes.mergeSort precedes ≠ [] := by
    intro heq
    exact h (List.eq_nil_of_length_eq_zero (by simpa using congrArg List.length heq))
  obtain ⟨f, rest, heq⟩ := List.exists_cons_of_ne_nil hsort
  simp [select, heq, selectAfter]

/-- No fix that is taken overlaps the one taken before it. -/
theorem not_overlaps_selectAfter (last? : Option Fix) (fixes : List Fix) :
    (∀ f ∈ last?, ∀ g ∈ (selectAfter last? fixes).head?, f.overlaps g = false) ∧
      (selectAfter last? fixes).IsChain (fun f g => f.overlaps g = false) := by
  induction fixes generalizing last? with
  | nil => simp [selectAfter]
  | cons f rest ih =>
    rw [selectAfter]
    split
    · exact ih last?
    · rename_i hlast
      obtain ⟨hhead, hchain⟩ := ih (some f)
      refine ⟨?_, List.isChain_cons.2 ⟨fun g hg => hhead f rfl g hg, hchain⟩⟩
      intro g hg h hh
      obtain rfl : f = h := by simpa using hh
      cases hg
      simpa using hlast

theorem isChain_select (fixes : List Fix) :
    (select fixes).IsChain (fun f g => f.overlaps g = false) :=
  (not_overlaps_selectAfter none _).2

/-! ## Where those that are taken stand -/

/-- A fix that does not overlap one before it starts behind that one, or it is an insertion at the
    same place. -/
theorem stop_le_or_of_not_overlaps {f g : Fix} (hle : f.offset ≤ g.offset)
    (h : f.overlaps g = false) : f.stop ≤ g.offset ∨ (g.offset = f.offset ∧ g.length = 0) := by
  rcases not_overlaps_iff.1 h with hstop | hstop
  · simp only [stop] at hstop
    omega
  · exact .inl hstop

/-- No insertion stands at the start of a longer fix. -/
def IsClear (fixes : List Fix) : Prop :=
  ∀ f ∈ fixes, 0 < f.length → ∀ g ∈ fixes, g.offset = f.offset → 0 < g.length

theorem IsClear.of_pos {fixes : List Fix} (h : ∀ f ∈ fixes, 0 < f.length) : IsClear fixes :=
  fun _ _ _ g hg _ => h g hg

theorem IsClear.of_cons {f : Fix} {rest : List Fix} (h : IsClear (f :: rest)) : IsClear rest :=
  fun g hg hpos k hk => h g (List.mem_cons_of_mem f hg) hpos k (List.mem_cons_of_mem f hk)

/-- Fixes that are taken stand one behind the other, if none of them is an insertion at the start of
    a longer one. -/
theorem pairwise_select_of_isClear {fixes : List Fix} (hclear : IsClear (select fixes)) :
    (select fixes).Pairwise (·.stop ≤ ·.offset) := by
  have hsorted := pairwise_offset_select fixes
  have hchain := isChain_select fixes
  revert hclear hsorted hchain
  induction select fixes with
  | nil => intros; exact List.Pairwise.nil
  | cons f rest ih =>
    intro hclear hsorted hchain
    rw [List.pairwise_cons] at hsorted
    refine List.pairwise_cons.2 ⟨?_, ih hclear.of_cons hsorted.2 hchain.tail⟩
    cases rest with
    | nil => simp
    | cons g rest =>
      -- The next fix starts at the end of this one or later, and all others after it.
      have hfg : f.stop ≤ g.offset := by
        have hle := hsorted.1 g List.mem_cons_self
        rcases stop_le_or_of_not_overlaps hle (List.isChain_cons_cons.1 hchain).1 with
          hstop | ⟨hoffset, hzero⟩
        · exact hstop
        · have hlength := hclear f List.mem_cons_self
          have := fun hpos => hlength hpos g (by simp) hoffset
          simp only [stop]
          omega
      intro k hk
      rcases List.mem_cons.1 hk with rfl | hk
      · exact hfg
      · exact Nat.le_trans hfg ((List.pairwise_cons.1 hsorted.2).1 k hk)

/-- Fixes that are not empty and are taken stand one behind the other. -/
theorem pairwise_select {fixes : List Fix} (h : ∀ f ∈ fixes, 0 < f.length) :
    (select fixes).Pairwise (·.stop ≤ ·.offset) :=
  pairwise_select_of_isClear (.of_pos fun f hf => h f (mem_of_mem_select hf))

theorem not_overlaps_of_stop_le {f g : Fix} (h : f.stop ≤ g.offset) : f.overlaps g = false :=
  not_overlaps_iff.2 (.inr h)

/-! ## What is left out -/

/-- Whatever is left out overlaps the fix that was taken before it. -/
theorem exists_perm_selectAfter (last? : Option Fix) (fixes : List Fix) :
    ∃ skipped, fixes.Perm (selectAfter last? fixes ++ skipped) ∧
      ∀ f ∈ skipped, ∃ g, (g ∈ last? ∨ g ∈ selectAfter last? fixes) ∧ g.overlaps f = true := by
  induction fixes generalizing last? with
  | nil => exact ⟨[], .nil, by simp⟩
  | cons f rest ih =>
    rw [selectAfter]
    split
    · next hlast =>
      obtain ⟨skipped, hperm, hskipped⟩ := ih last?
      refine ⟨f :: skipped, (hperm.cons f).trans List.perm_middle.symm, ?_⟩
      intro h hh
      rcases List.mem_cons.1 hh with rfl | hh
      · obtain ⟨g, hg, hoverlaps⟩ := (Option.any_eq_true ..).1 hlast
        exact ⟨g, .inl hg, hoverlaps⟩
      · exact hskipped h hh
    · obtain ⟨skipped, hperm, hskipped⟩ := ih (some f)
      refine ⟨skipped, hperm.cons f, fun h hh => ?_⟩
      obtain ⟨g, hg | hg, hoverlaps⟩ := hskipped h hh
      · obtain rfl : f = g := by simpa using hg
        exact ⟨f, .inr List.mem_cons_self, hoverlaps⟩
      · exact ⟨g, .inr (List.mem_cons_of_mem f hg), hoverlaps⟩

/-- The fixes are those that are taken and some others, each of which overlaps one that is taken. -/
theorem exists_perm_select (fixes : List Fix) :
    ∃ skipped, fixes.Perm (select fixes ++ skipped) ∧
      ∀ f ∈ skipped, ∃ g ∈ select fixes, g.overlaps f = true := by
  obtain ⟨skipped, hperm, hskipped⟩ := exists_perm_selectAfter none (fixes.mergeSort precedes)
  refine ⟨skipped, (List.mergeSort_perm fixes precedes).symm.trans hperm, fun f hf => ?_⟩
  obtain ⟨g, hg | hg, hoverlaps⟩ := hskipped f hf
  · simp at hg
  · exact ⟨g, hg, hoverlaps⟩

/-! ## The same choice -/

/-- Where only equal fixes have the same span, there is one way to put them in order. -/
theorem mergeSort_eq_of_perm {fixes sorted : List Fix} (hperm : fixes.Perm sorted)
    (hsorted : sorted.Pairwise fun f g => f.precedes g = true)
    (hspans : ∀ f ∈ sorted, ∀ g ∈ sorted, f.offset = g.offset → f.length = g.length → f = g) :
    fixes.mergeSort precedes = sorted := by
  refine List.Perm.eq_of_pairwise (fun f g hf hg hfg hgf => ?_)
    (List.pairwise_mergeSort precedes_trans precedes_total fixes) hsorted
    ((List.mergeSort_perm fixes precedes).trans hperm)
  simp only [precedes, Bool.or_eq_true, Bool.and_eq_true, decide_eq_true_eq, beq_iff_eq]
    at hfg hgf
  exact hspans f (hperm.mem_iff.1 (List.mem_mergeSort.1 hf)) g hg (by omega) (by omega)

/-- Fixes with different spans have one order, and so the same ones are taken of them however they
    are listed. -/
theorem select_eq_of_perm {fixes fixes' : List Fix} (hperm : fixes.Perm fixes')
    (hspans : fixes.Pairwise fun f g => f.offset ≠ g.offset ∨ f.length ≠ g.length) :
    select fixes = select fixes' := by
  have hsort : fixes.mergeSort precedes = fixes'.mergeSort precedes := by
    refine mergeSort_eq_of_perm (hperm.trans (List.mergeSort_perm fixes' precedes).symm)
      (List.pairwise_mergeSort precedes_trans precedes_total fixes')
      fun f hf g hg hoffset hlength => ?_
    by_contra hne
    have hsymm : Std.Symm fun f g : Fix => f.offset ≠ g.offset ∨ f.length ≠ g.length :=
      ⟨fun _ _ h => h.imp Ne.symm Ne.symm⟩
    rcases hspans.forall (hperm.mem_iff.2 (List.mem_mergeSort.1 hf))
      (hperm.mem_iff.2 (List.mem_mergeSort.1 hg)) hne with hspan | hspan
    · exact hspan hoffset
    · exact hspan hlength
  rw [select, hsort, select]

section Map

variable (move : Fix → Fix) (hoverlaps : ∀ f g, (move f).overlaps (move g) = f.overlaps g)
include hoverlaps

theorem selectAfter_map (last? : Option Fix) (fixes : List Fix) :
    selectAfter (last?.map move) (fixes.map move) = (selectAfter last? fixes).map move := by
  induction fixes generalizing last? with
  | nil => rfl
  | cons f rest ih =>
    have hany : (last?.map move).any (·.overlaps (move f)) = last?.any (·.overlaps f) := by
      cases last? with
      | none => rfl
      | some g => exact hoverlaps g f
    rw [List.map_cons, selectAfter, selectAfter, hany]
    split
    · exact ih last?
    · rw [List.map_cons, ← ih (some f)]
      rfl

/-- Where fixes change without a change of their order and of what overlaps, the same ones are
    taken. -/
theorem select_map (hprecedes : ∀ f g, (move f).precedes (move g) = f.precedes g)
    (fixes : List Fix) : select (fixes.map move) = (select fixes).map move := by
  have hsort : (fixes.mergeSort precedes).map move = (fixes.map move).mergeSort precedes :=
    List.map_mergeSort fun f _ g _ => (hprecedes f g).symm
  rw [select, ← hsort, select]
  exact selectAfter_map move hoverlaps none _

end Map

end ClassSpacing.Fix
