import ClassSpacing.Proofs.Fix.Result

/-!
# A pass as one substitution

The fixes of a pass are chosen front to back, each compared with the last one that was taken only,
and made from the last to the first, each checked against the text that the others left behind. If
no fix is empty, all this comes to one simultaneous substitution: no two of the chosen fixes
overlap, whatever is skipped overlaps a chosen one, and the pass succeeds exactly if the source has
the spans of all that are chosen.

Insertions spoil this. An insertion at the start of a longer fix does not overlap it, is made before
it and moves the text that it is about. `applyFixes_succeeds_iff` says that nothing else can go
wrong: where no insertion is chosen together with a longer fix at the same place, a pass over fixes
whose spans the source has always succeeds, and where there is one, it fails for some replacements.
-/

namespace ClassSpacing

open Text

/-! ## Spans in a text -/

namespace Fix

/-- The span of a fix lies in a text, and its ends do not fall inside of characters. -/
def IsWithin (source : Text) (f : Fix) : Prop :=
  f.stop ≤ source.byteLength ∧ source.isBoundary f.offset = true ∧
    source.isBoundary f.stop = true

theorem isWithin_iff_isPlaced {source : Text} {f : Fix} :
    f.IsWithin source ↔ f.IsPlaced source := by
  constructor
  · rintro ⟨-, hoffset, hstop⟩
    obtain ⟨before, rest, hbefore, hlen⟩ := isBoundary_iff.1 hoffset
    obtain ⟨front, after, hfront, hlen'⟩ := isBoundary_iff.1 hstop
    obtain ⟨found, rfl, rfl⟩ := exists_append_of_byteLength_le (hbefore.symm.trans hfront)
      (by rw [hlen, hlen', stop]; exact Nat.le_add_right ..)
    refine ⟨before, found, after, hbefore, hlen.symm, ?_⟩
    rw [byteLength_append, hlen, stop] at hlen'
    exact (Nat.add_left_cancel hlen').symm
  · rintro ⟨before, found, after, rfl, hoffset, hlength⟩
    have hstop : f.stop = (before ++ found).byteLength := by
      rw [stop, hoffset, hlength, byteLength_append]
    refine ⟨?_, isBoundary_iff.2 ⟨before, found ++ after, rfl, hoffset.symm⟩,
      isBoundary_iff.2 ⟨before ++ found, after, by simp, hstop.symm⟩⟩
    rw [hstop, ← List.append_assoc, byteLength_append (before ++ found)]
    exact Nat.le_add_right ..

end Fix

/-! ## Fixes that replace something -/

/-- The result of a pass does not depend on the order of the diagnostics, unless two fixes have the
    same span. -/
theorem applyFixes_eq_of_perm (file : Path) (source : Text) {diagnostics others : List Diagnostic}
    (hperm : diagnostics.Perm others)
    (hspans : (diagnostics.filterMap (·.fix?)).Pairwise
      fun f g => f.offset ≠ g.offset ∨ f.length ≠ g.length) :
    applyFixes file source others = applyFixes file source diagnostics := by
  have hfixes := hperm.filterMap (·.fix?)
  have hselect := Fix.select_eq_of_perm hfixes hspans
  simp only [applyFixes, ← hselect, hfixes.length_eq]

/-- A pass over fixes that are not empty is one simultaneous substitution. No two of the chosen
    fixes overlap, and each of the others overlaps a chosen one. The pass succeeds exactly if the
    spans of the chosen fixes lie in the source and cut no characters; it never finds a changed
    text. The order of the diagnostics does not matter, unless two fixes have the same span. -/
theorem applyFixes_substitutes (file : Path) (source : Text) (diagnostics : List Diagnostic)
    (hpos : ∀ f ∈ diagnostics.filterMap (·.fix?), 0 < f.length) :
    let fixes := diagnostics.filterMap (·.fix?)
    let chosen := Fix.select fixes
    chosen.Pairwise (fun f g => f.overlaps g = false) ∧
      (∃ skipped, fixes.Perm (chosen ++ skipped) ∧
        ∀ f ∈ skipped, ∃ g ∈ chosen, g.overlaps f = true) ∧
      ((∃ pass, applyFixes file source diagnostics = .ok pass) ↔
        ∀ f ∈ chosen, f.IsWithin source) ∧
      (∀ pass, applyFixes file source diagnostics = .ok pass →
        pass.text = Fix.substitute source chosen ∧ pass.applied = chosen.length ∧
          pass.applied + pass.skipped = diagnostics.countP (·.isFixable)) ∧
      (∀ path start stop found,
        applyFixes file source diagnostics ≠ .error (.edit (.changed path start stop found))) ∧
      ∀ others, diagnostics.Perm others →
        fixes.Pairwise (fun f g => f.offset ≠ g.offset ∨ f.length ≠ g.length) →
        applyFixes file source others = applyFixes file source diagnostics := by
  intro fixes chosen
  have hbehind : chosen.Pairwise (·.stop ≤ ·.offset) := Fix.pairwise_select hpos
  obtain ⟨skipped, hperm, hskipped⟩ := Fix.exists_perm_select fixes
  refine ⟨hbehind.imp Fix.not_overlaps_of_stop_le, ⟨skipped, hperm, hskipped⟩, ?_, ?_, ?_,
    fun others => applyFixes_eq_of_perm file source⟩
  · constructor
    · rintro ⟨pass, hpass⟩ f hf
      obtain ⟨happly, -, -⟩ := applyFixes_eq_ok_iff.1 hpass
      exact Fix.isWithin_iff_isPlaced.2 (Fix.isPlaced_of_applyFrom hbehind happly f hf)
    · intro hwithin
      have happly := Fix.applyFrom_eq_substitute file hbehind
        fun f hf => Fix.isWithin_iff_isPlaced.1 (hwithin f hf)
      exact ⟨⟨_, _, _⟩, applyFixes_eq_ok_iff.2 ⟨happly, rfl, rfl⟩⟩
  · intro pass hpass
    obtain ⟨happly, happlied, hleft⟩ := applyFixes_eq_ok_iff.1 hpass
    have hsubstitute := Fix.applyFrom_eq_substitute file hbehind
      (Fix.isPlaced_of_applyFrom hbehind happly)
    have hle : chosen.length ≤ fixes.length := by
      rw [hperm.length_eq, List.length_append]
      exact Nat.le_add_right ..
    refine ⟨Except.ok.inj (happly.symm.trans hsubstitute), happlied, ?_⟩
    rw [happlied, hleft, Nat.add_sub_cancel' hle, List.length_filterMap_eq_countP]
    rfl
  · intro path start stop found herror
    have hcause := Fix.not_isPlaced_of_applyFrom hbehind (applyFixes_eq_error_iff.1 herror)
    exact hcause.2 path start stop found rfl

/-- A diagnostic with a fix. -/
def Diagnostic.ofFix (f : Fix) : Diagnostic where
  severity := .error
  offset := f.offset
  length := f.length
  message := "must have at least one new line between class methods"
  fix? := some f
  start := ⟨0, f.offset, f.offset⟩
  stop := ⟨0, f.stop, f.stop⟩

/-- Diagnostics out of order, with a fix that is there twice and overlaps its neighbours. -/
def crowded : List Diagnostic :=
  [.ofFix ⟨3, 2, ['X']⟩, .ofFix ⟨0, 4, ['Y', 'Y']⟩,
    { (Diagnostic.ofFix default) with fix? := none }, .ofFix ⟨3, 2, ['X']⟩, .ofFix ⟨4, 2, []⟩]

theorem applyFixes_substitutes_crowded :
    (∀ f ∈ crowded.filterMap (·.fix?), 0 < f.length) ∧
      Fix.select (crowded.filterMap (·.fix?)) = [⟨0, 4, ['Y', 'Y']⟩, ⟨4, 2, []⟩] ∧
      ∃ pass, applyFixes ⟨"a.ts"⟩ ['a', 'b', 'c', 'd', 'e', 'f', 'g'] crowded = .ok pass ∧
        pass.text = ['Y', 'Y', 'g'] ∧ pass.applied = 2 ∧ pass.skipped = 2 := by
  have hpos : ∀ f ∈ crowded.filterMap (·.fix?), 0 < f.length := by decide
  have hsort : (crowded.filterMap (·.fix?)).mergeSort Fix.precedes =
      [⟨0, 4, ['Y', 'Y']⟩, ⟨3, 2, ['X']⟩, ⟨3, 2, ['X']⟩, ⟨4, 2, []⟩] :=
    Fix.mergeSort_eq_of_perm (by decide) (by decide) (by decide)
  have hselect : Fix.select (crowded.filterMap (·.fix?)) = [⟨0, 4, ['Y', 'Y']⟩, ⟨4, 2, []⟩] := by
    rw [Fix.select, hsort]
    decide
  obtain ⟨-, -, hok, hpass, -, -⟩ := applyFixes_substitutes ⟨"a.ts"⟩
    ['a', 'b', 'c', 'd', 'e', 'f', 'g'] crowded hpos
  rw [hselect] at hok hpass
  obtain ⟨pass, happly⟩ := hok.2 (by simp only [Fix.IsWithin]; decide)
  obtain ⟨htext, happlied, hcount⟩ := hpass pass happly
  refine ⟨hpos, hselect, pass, happly, htext, happlied, ?_⟩
  rw [happlied] at hcount
  exact Nat.add_left_cancel hcount

/-! ## Insertions -/

namespace Fix

/-- A fix with another replacement. -/
def reword (texts : Fix → Text) (f : Fix) : Fix :=
  { f with replacement := texts f }

/-- The choice is a matter of spans only. -/
theorem select_reword (texts : Fix → Text) (fixes : List Fix) :
    select (fixes.map (reword texts)) = (select fixes).map (reword texts) :=
  select_map (reword texts) (fun _ _ => rfl) (fun _ _ => rfl) fixes

theorem isClear_map_reword {texts : Fix → Text} {fixes : List Fix} :
    IsClear (fixes.map (reword texts)) ↔ IsClear fixes := by
  simp only [IsClear, List.forall_mem_map]
  exact Iff.rfl

/-- The longer of two fixes at one place is chosen first, and an insertion there comes right behind
    it. -/
theorem exists_neighbours {fixes : List Fix} (h : ¬ IsClear (select fixes)) :
    ∃ front f g rest, select fixes = front ++ f :: g :: rest ∧ 0 < f.length ∧
      g.offset = f.offset ∧ g.length = 0 := by
  simp only [IsClear, not_forall, Nat.not_lt, Nat.le_zero] at h
  obtain ⟨f, hf, hpos, insertion, hmem, hoffset, hzero⟩ := h
  have hprecedes := pairwise_precedes_select fixes
  have hchain := isChain_select fixes
  obtain ⟨front, rest, hcut⟩ := List.append_of_mem hf
  rw [hcut] at hprecedes hchain hmem
  rw [List.pairwise_append, List.pairwise_cons] at hprecedes
  -- The insertion is not chosen before the longer fix.
  have hrest : insertion ∈ rest := by
    rcases List.mem_append.1 hmem with hfront | hmem
    · have hle := hprecedes.2.2 insertion hfront f List.mem_cons_self
      simp only [precedes, Bool.or_eq_true, Bool.and_eq_true, decide_eq_true_eq, beq_iff_eq] at hle
      omega
    · rcases List.mem_cons.1 hmem with rfl | hrest
      · omega
      · exact hrest
  cases rest with
  | nil => simp at hrest
  | cons g rest =>
    have hfg := offset_le_of_precedes (hprecedes.2.1.1 g List.mem_cons_self)
    have hgle : g.offset ≤ insertion.offset := by
      rcases List.mem_cons.1 hrest with rfl | hrest
      · exact Nat.le_refl _
      · exact offset_le_of_precedes ((List.pairwise_cons.1 hprecedes.2.1.2).1 insertion hrest)
    have hneighbours : f.overlaps g = false :=
      (List.isChain_cons_cons.1 (List.isChain_append.1 hchain).2.1).1
    rcases stop_le_or_of_not_overlaps hfg hneighbours with hstop | ⟨hsame, hempty⟩
    · simp only [stop] at hstop
      omega
    · exact ⟨front, f, g, rest, hcut, hpos, hsame, hempty⟩

/-- A text of which no first part has the given number of bytes. -/
def overhang (size : Nat) : Text :=
  List.replicate (size - 1) 'x' ++ ['é']

theorem byteLength_replicate (count : Nat) :
    byteLength (List.replicate count 'x') = count := by
  induction count with
  | zero => rfl
  | succ count ih =>
    rw [List.replicate_succ, byteLength_cons, ih, Nat.add_comm]
    rfl

theorem byteLength_ne_of_overhang {size : Nat} (hsize : 0 < size) {found after tail : Text}
    (h : overhang size ++ tail = found ++ after) : found.byteLength ≠ size := by
  intro hlen
  rw [overhang, List.append_assoc] at h
  obtain ⟨x, rfl, hx⟩ := exists_append_of_byteLength_le h
    (by rw [hlen, byteLength_replicate]; exact Nat.sub_le ..)
  rw [byteLength_append, byteLength_replicate] at hlen
  cases x with
  | nil => simp at hlen; omega
  | cons c x =>
    obtain rfl : 'é' = c := (List.cons.inj hx).1
    have htwo : ('é').utf8Size = 2 := rfl
    rw [byteLength_cons, htwo] at hlen
    omega

theorem exists_applyFrom_of_append {file : Path} {source text : Text} {front fixes : List Fix}
    (h : applyFrom file source (front ++ fixes) = .ok text) :
    ∃ middle, applyFrom file source fixes = .ok middle := by
  induction front generalizing text with
  | nil => exact ⟨text, h⟩
  | cons f front ih =>
    obtain ⟨middle, hmiddle, -⟩ := Except.bind_eq_ok_iff.1 h
    exact ih hmiddle

/-- A fix cannot be made on top of a text that the next one has left at its start, if there is no
    boundary in that text where the fix ends. -/
theorem applyFrom_ne_ok_of_insertion {file : Path} {source text : Text} {front rest : List Fix}
    {f g : Fix} (hpos : 0 < f.length) (hoffset : g.offset = f.offset)
    (hreplacement : g.replacement = overhang f.length) :
    applyFrom file source (front ++ f :: g :: rest) ≠ .ok text := by
  intro h
  obtain ⟨last, hlast⟩ := exists_applyFrom_of_append h
  obtain ⟨middle, hmiddle, happly⟩ := Except.bind_eq_ok_iff.1 hlast
  obtain ⟨_, -, hinsert⟩ := Except.bind_eq_ok_iff.1 hmiddle
  obtain ⟨before, found, after, -, hstart, hstop, rfl⟩ := Edit.exists_of_applyTo hinsert
  obtain ⟨before', found', after', hcut, hstart', hstop', -⟩ := Edit.exists_of_applyTo happly
  simp only [toEdit, Edit.make, stop] at hstart hstart' hstop' hcut
  have hlen : before.byteLength = before'.byteLength := by omega
  obtain ⟨rfl, hfound⟩ := append_inj_of_byteLength hcut hlen
  rw [hreplacement] at hfound
  exact byteLength_ne_of_overhang hpos hfound (by omega)

end Fix

/-- A diagnostic whose fix has another replacement. -/
def Diagnostic.reword (texts : Fix → Text) (d : Diagnostic) : Diagnostic :=
  { d with fix? := d.fix?.map (Fix.reword texts) }

theorem filterMap_reword (texts : Fix → Text) (diagnostics : List Diagnostic) :
    (diagnostics.map (Diagnostic.reword texts)).filterMap (·.fix?) =
      (diagnostics.filterMap (·.fix?)).map (Fix.reword texts) := by
  rw [List.filterMap_map, List.map_filterMap]
  rfl

/-- Without insertions at the starts of longer fixes, a pass over fixes whose spans the source has
    succeeds. -/
theorem exists_applyFixes_of_isClear (file : Path) {source : Text} {diagnostics : List Diagnostic}
    (hwithin : ∀ f ∈ diagnostics.filterMap (·.fix?), f.IsWithin source)
    (hclear : Fix.IsClear (Fix.select (diagnostics.filterMap (·.fix?)))) :
    (Fix.select (diagnostics.filterMap (·.fix?))).Pairwise (fun f g => f.overlaps g = false) ∧
      ∃ pass, applyFixes file source diagnostics = .ok pass ∧
        pass.text = Fix.substitute source (Fix.select (diagnostics.filterMap (·.fix?))) := by
  have hbehind := Fix.pairwise_select_of_isClear hclear
  have happly := Fix.applyFrom_eq_substitute file hbehind
    fun f hf => Fix.isWithin_iff_isPlaced.1 (hwithin f (Fix.mem_of_mem_select hf))
  exact ⟨hbehind.imp Fix.not_overlaps_of_stop_le, ⟨_, _, _⟩,
    applyFixes_eq_ok_iff.2 ⟨happly, rfl, rfl⟩, rfl⟩

/-- Where the spans of all fixes lie in the source, a pass succeeds whatever the replacements are,
    and chooses no two fixes that overlap, exactly if it chooses no insertion at the start of a
    longer fix that it chooses too. In that case it is one simultaneous substitution. -/
theorem applyFixes_succeeds_iff (file : Path) (source : Text) (diagnostics : List Diagnostic)
    (hwithin : ∀ f ∈ diagnostics.filterMap (·.fix?), f.IsWithin source) :
    let chosen (given : List Diagnostic) := Fix.select (given.filterMap (·.fix?))
    ((∀ texts : Fix → Text,
        (∃ pass, applyFixes file source (diagnostics.map (.reword texts)) = .ok pass) ∧
          (chosen (diagnostics.map (.reword texts))).Pairwise fun f g => f.overlaps g = false) ↔
      Fix.IsClear (chosen diagnostics)) ∧
      (Fix.IsClear (chosen diagnostics) →
        ∃ pass, applyFixes file source diagnostics = .ok pass ∧
          pass.text = Fix.substitute source (chosen diagnostics)) := by
  intro chosen
  have hchosen : ∀ texts, chosen (diagnostics.map (.reword texts)) =
      (chosen diagnostics).map (Fix.reword texts) := by
    intro texts
    simp only [chosen, filterMap_reword, Fix.select_reword]
  refine ⟨⟨fun hall => ?_, fun hclear texts => ?_⟩, fun hclear =>
    (exists_applyFixes_of_isClear file hwithin hclear).2⟩
  · -- All replacements are the same text, in which no character ends where the longer fix does.
    by_contra hnot
    obtain ⟨front, f, g, rest, hcut, hpos, hoffset, -⟩ := Fix.exists_neighbours hnot
    let texts : Fix → Text := fun _ => Fix.overhang f.length
    obtain ⟨⟨pass, hpass⟩, -⟩ := hall texts
    obtain ⟨happly, -, -⟩ := applyFixes_eq_ok_iff.1 hpass
    change Fix.applyFrom file source (chosen _) = _ at happly
    rw [hchosen, show chosen diagnostics = _ from hcut, List.map_append] at happly
    exact Fix.applyFrom_ne_ok_of_insertion (f := f.reword texts) (g := g.reword texts) hpos hoffset
      rfl happly
  · have hwithin' : ∀ f ∈ (diagnostics.map (Diagnostic.reword texts)).filterMap (·.fix?),
        f.IsWithin source := by
      rw [filterMap_reword, List.forall_mem_map]
      exact hwithin
    have hclear' : Fix.IsClear (chosen (diagnostics.map (.reword texts))) := by
      rw [hchosen, Fix.isClear_map_reword]
      exact hclear
    obtain ⟨hpairwise, pass, hpass, -⟩ := exists_applyFixes_of_isClear file hwithin' hclear'
    exact ⟨⟨pass, hpass⟩, hpairwise⟩

/-- A replacement and an insertion at its start. -/
def stacked : List Diagnostic :=
  [.ofFix ⟨0, 2, ['X']⟩, .ofFix ⟨0, 0, ['Y']⟩]

theorem applyFixes_fails_stacked :
    (∀ f ∈ stacked.filterMap (·.fix?), f.IsWithin ['a', 'b', 'c']) ∧
      ¬ Fix.IsClear (Fix.select (stacked.filterMap (·.fix?))) ∧
      applyFixes ⟨"a.ts"⟩ ['a', 'b', 'c'] stacked =
        .error (.edit (.changed ⟨"a.ts"⟩ 0 2 ['Y', 'a'])) := by
  have hwithin : ∀ f ∈ stacked.filterMap (·.fix?), f.IsWithin ['a', 'b', 'c'] := by
    simp only [Fix.IsWithin]
    decide
  have hselect : Fix.select (stacked.filterMap (·.fix?)) = [⟨0, 2, ['X']⟩, ⟨0, 0, ['Y']⟩] := by
    rw [Fix.select, List.mergeSort_of_pairwise (by decide)]
    decide
  have happly : applyFixes ⟨"a.ts"⟩ ['a', 'b', 'c'] stacked =
      .error (.edit (.changed ⟨"a.ts"⟩ 0 2 ['Y', 'a'])) := by
    rw [applyFixes_eq_error_iff, hselect]
    decide +kernel
  refine ⟨hwithin, fun hclear => ?_, happly⟩
  obtain ⟨pass, hpass, -⟩ :=
    (applyFixes_succeeds_iff ⟨"a.ts"⟩ ['a', 'b', 'c'] stacked hwithin).2 hclear
  rw [happly] at hpass
  cases hpass

-- Behind an insertion, a fix is chosen that overlaps an earlier one, and the result has three
-- fixes in one: the longer fix finds what it would have put there.
example :
    Fix.applyFrom ⟨"a.ts"⟩ ['a', 'b', 'c', 'd']
        (Fix.selectAfter none [⟨0, 2, ['a', 'c']⟩, ⟨0, 0, []⟩, ⟨1, 1, []⟩]) =
      .ok ['a', 'c', 'd'] := by
  decide +kernel

end ClassSpacing
