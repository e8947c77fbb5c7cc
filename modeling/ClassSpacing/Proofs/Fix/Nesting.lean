import ClassSpacing.Proofs.Fix.Select
import ClassSpacing.Proofs.Rule.Standing
import Mathlib.Order.Monotone.Defs

/-!
# Fixes inside fixes

Spans of which any two are apart or one inside the other form a forest. `Span.height` is the number
of its levels: the largest number of spans that a span of the forest lies inside of, itself included.
A pass takes the outermost fixes, so that one level less is left after it.
-/

namespace ClassSpacing

namespace Span

instance (a b : Span) : Decidable (a.Within b) :=
  inferInstanceAs (Decidable (_ ∧ _))

/-- The number of the spans that a span lies inside of. -/
def depth (spans : List Span) (s : Span) : Nat :=
  spans.countP fun t => s.Within t

/-- The number of levels of the forest that some spans form. -/
def height (spans : List Span) : Nat :=
  (spans.map (depth spans)).foldr max 0

theorem foldr_max_le_iff {numbers : List Nat} {n : Nat} :
    numbers.foldr max 0 ≤ n ↔ ∀ k ∈ numbers, k ≤ n := by
  induction numbers with
  | nil => simp
  | cons k rest ih => rw [List.foldr_cons, Nat.max_le, ih, List.forall_mem_cons]

theorem height_le_iff {spans : List Span} {n : Nat} :
    height spans ≤ n ↔ ∀ s ∈ spans, depth spans s ≤ n := by
  rw [height, foldr_max_le_iff, List.forall_mem_map]

theorem height_eq_zero_iff {spans : List Span} : height spans = 0 ↔ spans = [] := by
  constructor
  · intro h
    rw [List.eq_nil_iff_forall_not_mem]
    intro s hs
    have hzero := height_le_iff.1 (Nat.le_of_eq h) s hs
    have hpos : 0 < depth spans s :=
      List.countP_pos_iff.2 ⟨s, hs, decide_eq_true (Within.refl s)⟩
    omega
  · rintro rfl
    rfl

/-- The forest without its roots has one level less. -/
theorem height_eq_succ {spans outer inner : List Span} (hne : spans ≠ [])
    (hperm : spans.Perm (outer ++ inner))
    (hone : ∀ s ∈ spans, outer.countP (fun t => s.Within t) = 1)
    (hnone : ∀ s ∈ outer, depth inner s = 0) : height spans = height inner + 1 := by
  -- Exactly one of the spans around a span is a root.
  have hdepth : ∀ s ∈ spans, depth spans s = depth inner s + 1 := by
    intro s hs
    rw [depth, hperm.countP_eq, List.countP_append, hone s hs, depth, Nat.add_comm]
  have hinner : ∀ n, (∀ s ∈ spans, depth inner s ≤ n) ↔ height inner ≤ n := by
    intro n
    rw [height_le_iff]
    constructor
    · intro h s hs
      exact h s (hperm.mem_iff.2 (List.mem_append_right _ hs))
    · intro h s hs
      rcases List.mem_append.1 (hperm.mem_iff.1 hs) with houter | hinner
      · simp [hnone s houter]
      · exact h s hinner
  apply Nat.le_antisymm
  · refine height_le_iff.2 fun s hs => ?_
    have := (hinner (height inner)).2 (Nat.le_refl _) s hs
    rw [hdepth s hs]
    omega
  · obtain ⟨n, hn⟩ : ∃ n, height spans = n + 1 :=
      Nat.exists_eq_succ_of_ne_zero fun hzero => hne (height_eq_zero_iff.1 hzero)
    rw [hn]
    refine Nat.succ_le_succ ((hinner n).1 fun s hs => ?_)
    have := height_le_iff.1 (Nat.le_of_eq hn) s hs
    rw [hdepth s hs] at this
    omega

/-- Moving spans keeps the height where it keeps what lies inside what. -/
theorem height_map {spans : List Span} {move : Nat → Nat}
    (h : ∀ s ∈ spans, ∀ t ∈ spans, (s.map move).Within (t.map move) ↔ s.Within t) :
    height (spans.map (Span.map move)) = height spans := by
  have hdepth : ∀ s ∈ spans, depth (spans.map (Span.map move)) (s.map move) = depth spans s := by
    intro s hs
    rw [depth, List.countP_map, depth]
    refine List.countP_congr fun t ht => ?_
    simpa using h s hs t ht
  rw [height, height, List.map_map]
  exact congrArg _ (List.map_congr_left hdepth)

/-- A move that keeps the order and leaves spans apart or nested keeps what lies inside what. -/
theorem IsLaminar.within_map_iff {a b : Span} {move : Nat → Nat} (hmove : Monotone move)
    (h : a.IsLaminar b) (h' : (a.map move).IsLaminar (b.map move))
    (hpos : (a.map move).start < (a.map move).stop) :
    (a.map move).Within (b.map move) ↔ a.Within b := by
  constructor
  · rintro ⟨hstart, hstop⟩
    have hne := h'.1
    simp only [Span.map] at hstart hstop hne hpos
    rcases h.2 with hlt | hlt | ⟨hlt, -⟩ | hinside
    · have := hmove (Nat.le_of_lt hlt)
      omega
    · have := hmove (Nat.le_of_lt hlt)
      omega
    · have := hmove (Nat.le_of_lt hlt)
      omega
    · exact ⟨Nat.le_of_lt hinside.1, hinside.2⟩
  · rintro ⟨hstart, hstop⟩
    exact ⟨hmove hstart, hmove hstop⟩

/-- A family of nested spans keeps its height under such a move. -/
theorem height_map_of_isLaminar {spans : List Span} {move : Nat → Nat} (hmove : Monotone move)
    (h : spans.Pairwise IsLaminar) (h' : (spans.map (Span.map move)).Pairwise IsLaminar)
    (hpos : ∀ s ∈ spans.map (Span.map move), s.start < s.stop) :
    height (spans.map (Span.map move)) = height spans := by
  have hboth := h.and (List.pairwise_map.1 h')
  have : Std.Symm fun s t : Span => s.IsLaminar t ∧ (s.map move).IsLaminar (t.map move) :=
    ⟨fun _ _ hst => ⟨hst.1.symm, hst.2.symm⟩⟩
  refine height_map fun s hs t ht => ?_
  by_cases heq : s = t
  · subst heq
    exact iff_of_true (Within.refl _) (Within.refl _)
  · obtain ⟨hst, hst'⟩ := hboth.forall hs ht heq
    exact hst.within_map_iff hmove hst' (hpos _ (List.mem_map_of_mem hs))

end Span

/-! ## The outermost fixes -/

namespace Fix

/-- The number of levels of the forest that the spans of some fixes form. -/
def height (fixes : List Fix) : Nat :=
  Span.height (fixes.map span)

/-- A fix that starts before another one, which is behind it or inside it. -/
def Heads (f g : Fix) : Prop :=
  f.offset < g.offset ∧ (f.stop < g.offset ∨ g.stop ≤ f.stop)

theorem Heads.not_within {f g : Fix} (h : f.Heads g) : ¬ f.span.Within g.span :=
  fun hwithin => Nat.not_lt.2 hwithin.1 h.1

/-- Sorted fixes that are apart or nested are headed by those before them. -/
theorem pairwise_heads {fixes : List Fix} (h : (fixes.map span).Pairwise Span.IsLaminar) :
    (fixes.mergeSort precedes).Pairwise Heads := by
  have hlaminar : (fixes.mergeSort precedes).Pairwise fun f g => f.span.IsLaminar g.span :=
    ((List.mergeSort_perm fixes precedes).pairwise_iff fun h => h.symm).2 (List.pairwise_map.1 h)
  refine ((pairwise_mergeSort_precedes fixes).and hlaminar).imp ?_
  rintro f g ⟨hle, hne, hcases⟩
  simp only [span, stop] at hne hcases
  simp only [Heads, stop]
  omega

/-- Of what comes behind a fix, nothing contains it. -/
theorem countP_selectAfter_of_heads {last? : Option Fix} {f : Fix} {rest : List Fix}
    (h : ∀ g ∈ rest, f.Heads g) :
    (selectAfter last? rest).countP (fun g => f.span.Within g.span) = 0 :=
  List.countP_eq_zero.2 fun g hg =>
    by simpa using (h g ((selectAfter_sublist last? rest).subset hg)).not_within

/-- Every fix behind the last one that was taken lies inside exactly one that is or was taken. -/
theorem countP_selectAfter {last : Fix} {fixes : List Fix} (hlast : ∀ g ∈ fixes, last.Heads g)
    (hpairwise : fixes.Pairwise Heads) (hpos : ∀ g ∈ fixes, 0 < g.length) {g : Fix}
    (hg : g ∈ fixes) :
    (last :: selectAfter (some last) fixes).countP (fun f => g.span.Within f.span) = 1 := by
  induction fixes generalizing last with
  | nil => simp at hg
  | cons f rest ih =>
    rw [List.pairwise_cons] at hpairwise
    have hlastRest := fun k hk => hlast k (List.mem_cons_of_mem f hk)
    have hposRest := fun k hk => hpos k (List.mem_cons_of_mem f hk)
    have hf := hlast f (List.mem_cons_self ..)
    have hfPos := hpos f (List.mem_cons_self ..)
    rw [selectAfter]
    cases hoverlap : last.overlaps f with
    | true =>
      -- The fix is left out: it starts inside the last one, and so it lies inside it.
      rw [if_pos (by simpa using hoverlap)]
      rcases List.mem_cons.1 hg with rfl | hrest
      · have hwithin : g.span.Within last.span := by
          simp only [overlaps, Bool.and_eq_true, decide_eq_true_eq] at hoverlap
          obtain ⟨hlt, hlt' | hle⟩ := hf
          · omega
          · exact ⟨Nat.le_of_lt hlt, hle⟩
        rw [List.countP_cons_of_pos (by simpa using hwithin),
          countP_selectAfter_of_heads hpairwise.1]
      · exact ih hlastRest hpairwise.2 hposRest hrest
    | false =>
      -- The fix is taken, and from here on nothing lies inside the last one.
      rw [if_neg (by simp [hoverlap])]
      have hbehind : last.stop ≤ f.offset := by
        have := hf.1
        rcases not_overlaps_iff.1 hoverlap with hle | hle
        · simp only [stop] at hle
          omega
        · exact hle
      have hnot : ∀ k : Fix, f.offset ≤ k.offset → 0 < k.length → ¬ k.span.Within last.span := by
        rintro k hk hkPos ⟨-, hstop⟩
        simp only [span, stop] at hstop hbehind
        omega
      rcases List.mem_cons.1 hg with rfl | hrest
      · have hself : g.span.Within g.span := Span.Within.refl _
        rw [List.countP_cons_of_neg (by simpa using hnot g (Nat.le_refl _) hfPos),
          List.countP_cons_of_pos (by simpa using hself),
          countP_selectAfter_of_heads hpairwise.1]
      · have hlt := (hpairwise.1 g hrest).1
        rw [List.countP_cons_of_neg (by
          simpa using hnot g (Nat.le_of_lt hlt) (hposRest g hrest))]
        exact ih hpairwise.1 hpairwise.2 hposRest hrest

/-- Every fix lies inside exactly one of those that are taken. -/
theorem countP_select {fixes : List Fix} (hlaminar : (fixes.map span).Pairwise Span.IsLaminar)
    (hpos : ∀ g ∈ fixes, 0 < g.length) {g : Fix} (hg : g ∈ fixes) :
    (select fixes).countP (fun f => g.span.Within f.span) = 1 := by
  have hsorted := pairwise_heads hlaminar
  have hpos' : ∀ g ∈ fixes.mergeSort precedes, 0 < g.length :=
    fun k hk => hpos k (List.mem_mergeSort.1 hk)
  have hg' : g ∈ fixes.mergeSort precedes := List.mem_mergeSort.2 hg
  unfold select
  revert hsorted hpos' hg'
  cases fixes.mergeSort precedes with
  | nil => simp
  | cons f rest =>
    intro hsorted hpos' hg'
    rw [List.pairwise_cons] at hsorted
    have hselect : selectAfter none (f :: rest) = f :: selectAfter (some f) rest := rfl
    rw [hselect]
    rcases List.mem_cons.1 hg' with rfl | hrest
    · have hself : g.span.Within g.span := Span.Within.refl _
      rw [List.countP_cons_of_pos (by simpa using hself), countP_selectAfter_of_heads hsorted.1]
    · exact countP_selectAfter hsorted.1 hsorted.2
        (fun k hk => hpos' k (List.mem_cons_of_mem _ hk)) hrest

/-- Those that are taken are the only ones that they lie inside of. -/
theorem eq_of_within_of_mem_select {fixes : List Fix}
    (hlaminar : (fixes.map span).Pairwise Span.IsLaminar) (hpos : ∀ g ∈ fixes, 0 < g.length)
    {f g : Fix} (hf : f ∈ select fixes) (hg : g ∈ fixes) (h : f.span.Within g.span) :
    f.span = g.span := by
  obtain ⟨k, hk, hgk⟩ := List.countP_pos_iff.1
    (Nat.lt_of_lt_of_eq Nat.one_pos (countP_select hlaminar hpos hg).symm)
  replace hgk : g.span.Within k.span := of_decide_eq_true hgk
  have hunique : f = k := by
    have hcount := countP_select hlaminar hpos (mem_of_mem_select hf)
    rw [List.countP_eq_length_filter] at hcount
    obtain ⟨x, hx⟩ := List.length_eq_one_iff.1 hcount
    have hmem : ∀ {e : Fix}, e ∈ select fixes → f.span.Within e.span → e = x := by
      intro e he hwithin
      exact List.mem_singleton.1 (hx ▸ List.mem_filter.2 ⟨he, by simpa using hwithin⟩)
    rw [hmem hf (Span.Within.refl _), hmem hk (h.trans hgk)]
  subst hunique
  exact h.antisymm hgk

/-- The spans of the fixes are those that are taken and those that are left. -/
theorem perm_select {fixes : List Fix} (hlaminar : (fixes.map span).Pairwise Span.IsLaminar) :
    (fixes.map span).Perm ((select fixes).map span ++
      (fixes.map span).filter fun s => s ∉ (select fixes).map span) := by
  have hnodup : (fixes.map span).Nodup := hlaminar.imp fun h heq => h.1 (congrArg Span.start heq)
  have hselect : ((select fixes).map span).Nodup :=
    (((List.mergeSort_perm fixes precedes).map span).nodup_iff.2 hnodup).sublist
      ((selectAfter_sublist none _).map span)
  have htaken : ((fixes.map span).filter fun s => s ∈ (select fixes).map span).Perm
      ((select fixes).map span) := by
    refine (List.perm_ext_iff_of_nodup (hnodup.filter _) hselect).2 fun s => ?_
    simp only [List.mem_filter, decide_eq_true_eq, and_iff_right_iff_imp]
    intro hs
    obtain ⟨f, hf, rfl⟩ := List.mem_map.1 hs
    exact List.mem_map_of_mem (mem_of_mem_select hf)
  have hsplit := List.filter_append_perm (fun s => decide (s ∈ (select fixes).map span))
    (fixes.map span)
  simp only [← decide_not] at hsplit
  exact hsplit.symm.trans (htaken.append_right _)

/-- One level less is left after a pass. -/
theorem height_eq_succ {fixes : List Fix} (hne : fixes ≠ [])
    (hlaminar : (fixes.map span).Pairwise Span.IsLaminar) (hpos : ∀ g ∈ fixes, 0 < g.length) :
    height fixes = Span.height
      ((fixes.map span).filter fun s => s ∉ (select fixes).map span) + 1 := by
  refine Span.height_eq_succ (by simpa using hne) (perm_select hlaminar) ?_ ?_
  · intro s hs
    obtain ⟨g, hg, rfl⟩ := List.mem_map.1 hs
    rw [List.countP_map]
    exact countP_select hlaminar hpos hg
  · intro s hs
    obtain ⟨f, hf, rfl⟩ := List.mem_map.1 hs
    refine List.countP_eq_zero.2 fun t ht hwithin => ?_
    simp only [List.mem_filter, decide_eq_true_eq] at ht hwithin
    obtain ⟨⟨g, hg, rfl⟩, hnot⟩ := And.imp_left List.mem_map.1 ht
    rw [← eq_of_within_of_mem_select hlaminar hpos hf hg hwithin] at hnot
    exact hnot hs

/-- Fixes that are apart or nested and are taken do not touch each other. -/
theorem pairwise_select_of_isLaminar {fixes : List Fix}
    (hlaminar : (fixes.map span).Pairwise Span.IsLaminar) (hpos : ∀ g ∈ fixes, 0 < g.length) :
    (select fixes).Pairwise (·.stop < ·.offset) := by
  have hheads := (pairwise_heads hlaminar).sublist (selectAfter_sublist none _)
  refine (hheads.and (pairwise_select hpos)).imp_of_mem ?_
  rintro f g - hg ⟨⟨-, hlt | hle⟩, hstop⟩
  · exact hlt
  · have := hpos g (mem_of_mem_select hg)
    simp only [stop] at hle hstop
    omega

end Fix

end ClassSpacing
