import ClassSpacing.Proofs.Fix.Select
import ClassSpacing.Proofs.Text.Lines

/-!
# Applying the fixes of one pass

An edit that applies replaces a middle part of the text. The fixes of a pass are made from the last
to the first, so what stands before the first of them stays, and fixes that stand one behind the
other find the source as it was.
-/

namespace ClassSpacing

open Text

/-! ## Computations that can fail -/

theorem Except.bind_eq_ok_iff {ε α β : Type} {x : Except ε α} {f : α → Except ε β} {b : β} :
    x >>= f = .ok b ↔ ∃ a, x = .ok a ∧ f a = .ok b := by
  cases x with
  | error e => simp [bind, Except.bind]
  | ok a => simp [bind, Except.bind]

/-! ## One edit -/

theorem Expectation.isMet_ofText (t : Text) : (Expectation.ofText t).isMet t = true := by
  unfold ofText
  split <;> simp [isMet]

namespace Edit

theorem splice_append (before found after new : Text) :
    splice (before ++ (found ++ after)) before.byteLength
      (before.byteLength + found.byteLength) new = before ++ (new ++ after) := by
  have hstart : (before ++ (found ++ after)).splitAt? before.byteLength =
      some (before, found ++ after) := splitAt?_append before (found ++ after)
  have hstop : (before ++ (found ++ after)).after? (before.byteLength + found.byteLength) =
      some after := by
    rw [after?_eq_map_splitAt?, ← List.append_assoc, ← byteLength_append, splitAt?_append]
    rfl
  simp [splice, hstart, hstop]

/-- The status of an edit whose span is a middle part of the text. -/
theorem inspect_append {e : Edit} {before found after : Text} (hstart : e.start = before.byteLength)
    (hstop : e.stop = before.byteLength + found.byteLength) :
    e.inspect (before ++ (found ++ after)) =
      if found = e.newText then .ok .done
      else if e.expected.isMet found then .ok .pending
      else .error (.changed e.file e.start e.stop found) := by
  have hrange : (decide (e.start > e.stop) ||
      decide (e.stop > (before ++ (found ++ after)).byteLength)) = false := by
    simp only [hstart, hstop, byteLength_append, Bool.or_eq_false_iff, decide_eq_false_iff_not]
    omega
  have hslice : (before ++ (found ++ after)).slice? e.start e.stop = some found :=
    slice?_eq_some_iff.2 ⟨before, after, by simp, hstart.symm, by rw [hstart, hstop]⟩
  simp only [inspect, hrange, hslice]
  simp

/-- An edit replaces its span, if the span holds what is expected or what is new. -/
theorem applyTo_append {e : Edit} {before found after : Text} (hstart : e.start = before.byteLength)
    (hstop : e.stop = before.byteLength + found.byteLength)
    (hmet : found = e.newText ∨ e.expected.isMet found = true) :
    e.applyTo (before ++ (found ++ after)) = .ok (before ++ (e.newText ++ after)) := by
  rw [applyTo, inspect_append hstart hstop]
  by_cases hdone : found = e.newText
  · rw [if_pos hdone, hdone]
    rfl
  · rw [if_neg hdone, if_pos (hmet.resolve_left hdone), hstart, hstop]
    exact congrArg Except.ok (splice_append before found after e.newText)

/-- The span of an edit that can be looked at is a middle part of the text. -/
theorem exists_of_inspect {e : Edit} {content : Text} {status : Status}
    (h : e.inspect content = .ok status) :
    ∃ before found after, content = before ++ (found ++ after) ∧ e.start = before.byteLength ∧
      e.stop = before.byteLength + found.byteLength := by
  unfold inspect at h
  split at h
  · simp at h
  · split at h
    · simp at h
    · rename_i found hslice
      obtain ⟨before, after, rfl, hstart, hstop⟩ := slice?_eq_some_iff.1 hslice
      exact ⟨before, found, after, List.append_assoc .., hstart.symm, by rw [hstop, hstart]⟩

/-- The span of an edit holds `found`, between `before` and `after`. -/
structure Parts (e : Edit) (content before found after : Text) : Prop where
  content_eq : content = before ++ (found ++ after)
  start_eq : e.start = before.byteLength
  stop_eq : e.stop = before.byteLength + found.byteLength

/-- An edit applies where its span holds what is expected or what is new, and replaces it. -/
theorem applyTo_eq_ok_iff {e : Edit} {content result : Text} :
    e.applyTo content = .ok result ↔ ∃ before found after, e.Parts content before found after ∧
      (found = e.newText ∨ e.expected.isMet found = true) ∧
      result = before ++ (e.newText ++ after) := by
  constructor
  · intro h
    obtain ⟨status, hinspect, -⟩ := Except.bind_eq_ok_iff.1 h
    obtain ⟨before, found, after, rfl, hstart, hstop⟩ := exists_of_inspect hinspect
    rw [inspect_append hstart hstop] at hinspect
    have hmet : found = e.newText ∨ e.expected.isMet found = true := by
      split_ifs at hinspect with hnew hmet
      · exact .inl hnew
      · exact .inr hmet
    rw [applyTo_append hstart hstop hmet] at h
    exact ⟨before, found, after, ⟨rfl, hstart, hstop⟩, hmet, (Except.ok.inj h).symm⟩
  · rintro ⟨before, found, after, ⟨rfl, hstart, hstop⟩, hmet, rfl⟩
    exact applyTo_append hstart hstop hmet

/-- An edit that applies replaces its span. -/
theorem exists_of_applyTo {e : Edit} {content result : Text} (h : e.applyTo content = .ok result) :
    ∃ before found after, content = before ++ (found ++ after) ∧ e.start = before.byteLength ∧
      e.stop = before.byteLength + found.byteLength ∧ result = before ++ (e.newText ++ after) := by
  obtain ⟨before, found, after, ⟨hcontent, hstart, hstop⟩, -, hresult⟩ := applyTo_eq_ok_iff.1 h
  exact ⟨before, found, after, hcontent, hstart, hstop, hresult⟩

end Edit

/-! ## One fix after the other -/

namespace Fix

/-- Makes some fixes of a source, the last one first. -/
def applyFrom (file : Path) (source : Text) : List Fix → Except EditError Text
  | [] => .ok source
  | f :: rest => do (f.toEdit file source).applyTo (← applyFrom file source rest)

theorem foldlM_reverse_eq_applyFrom (file : Path) (source : Text) (fixes : List Fix) :
    fixes.reverse.foldlM (fun text f => (f.toEdit file source).applyTo text) source =
      applyFrom file source fixes := by
  induction fixes with
  | nil => rfl
  | cons f rest ih =>
    rw [List.reverse_cons, List.foldlM_append, ih, applyFrom]
    simp only [List.foldlM_cons, List.foldlM_nil, bind_pure]

/-- Where the fixes start at some place or later, the text before that place stays. -/
theorem exists_append_of_applyFrom {file : Path} {source text : Text} {fixes : List Fix}
    (h : applyFrom file source fixes = .ok text) {front back : Text}
    (hsource : source = front ++ back)
    (hle : ∀ f ∈ fixes, front.byteLength ≤ f.offset) : ∃ tail, text = front ++ tail := by
  induction fixes generalizing text with
  | nil => exact ⟨back, by rw [← hsource]; exact (Except.ok.inj h).symm⟩
  | cons f rest ih =>
    obtain ⟨middle, hmiddle, happly⟩ := Except.bind_eq_ok_iff.1 h
    obtain ⟨tail, rfl⟩ := ih hmiddle fun g hg => hle g (List.mem_cons_of_mem _ hg)
    obtain ⟨before, found, after, hcut, hstart, -, rfl⟩ := Edit.exists_of_applyTo happly
    have hbefore : front.byteLength ≤ before.byteLength := by
      rw [← hstart]
      exact hle f (List.mem_cons_self ..)
    obtain ⟨x, rfl, -⟩ := exists_append_of_byteLength_le hcut hbefore
    exact ⟨x ++ ((f.toEdit file source).newText ++ after), by simp⟩

/-- A fix replaces its span of the source, if the later fixes have left the span alone. -/
theorem applyFrom_cons {file : Path} {source : Text} {f : Fix} {rest : List Fix}
    {before found after tail : Text} (hsource : source = before ++ (found ++ after))
    (hoffset : f.offset = before.byteLength) (hlength : f.length = found.byteLength)
    (hrest : applyFrom file source rest = .ok (before ++ (found ++ tail))) :
    applyFrom file source (f :: rest) = .ok (before ++ (f.replacement ++ tail)) := by
  have hslice : source.slice? f.offset f.stop = some found :=
    slice?_eq_some_iff.2 ⟨before, after, by simp [hsource], hoffset.symm, by simp [stop, hlength]⟩
  have hmet : (f.toEdit file source).expected.isMet found = true := by
    simp only [toEdit, Edit.make, hslice, Option.getD_some]
    exact Expectation.isMet_ofText found
  rw [applyFrom, hrest]
  exact Edit.applyTo_append (e := f.toEdit file source) hoffset
    (by simp [toEdit, Edit.make, stop, hoffset, hlength]) (Or.inr hmet)

/-- A fix before all others finds its span as it is in the source. -/
theorem exists_tail_of_applyFrom {file : Path} {source text : Text} {f : Fix} {rest : List Fix}
    {before found after : Text} (hrest : applyFrom file source rest = .ok text)
    (hbehind : ∀ g ∈ rest, f.stop ≤ g.offset) (hsource : source = before ++ (found ++ after))
    (hoffset : f.offset = before.byteLength) (hlength : f.length = found.byteLength) :
    ∃ tail, text = before ++ (found ++ tail) ∧
      applyFrom file source (f :: rest) = .ok (before ++ (f.replacement ++ tail)) := by
  have hfront : source = (before ++ found) ++ after := by simp [hsource]
  have hle : ∀ g ∈ rest, (before ++ found).byteLength ≤ g.offset := by
    intro g hg
    have hstop := hbehind g hg
    rw [stop, hoffset, hlength] at hstop
    rwa [byteLength_append]
  obtain ⟨tail, rfl⟩ := exists_append_of_applyFrom hrest hfront hle
  rw [List.append_assoc] at hrest
  exact ⟨tail, List.append_assoc .., applyFrom_cons hsource hoffset hlength hrest⟩

/-- The span of a fix is a middle part of the text. -/
def IsPlaced (source : Text) (f : Fix) : Prop :=
  ∃ before found after, source = before ++ (found ++ after) ∧ f.offset = before.byteLength ∧
    f.length = found.byteLength

theorem isPlaced_iff_slice? {source : Text} {f : Fix} :
    f.IsPlaced source ↔ ∃ found, source.slice? f.offset f.stop = some found := by
  constructor
  · rintro ⟨before, found, after, rfl, hoffset, hlength⟩
    exact ⟨found,
      slice?_eq_some_iff.2 ⟨before, after, by simp, hoffset.symm, by rw [stop, hlength]⟩⟩
  · rintro ⟨found, hslice⟩
    obtain ⟨before, after, rfl, hoffset, hstop⟩ := slice?_eq_some_iff.1 hslice
    exact ⟨before, found, after, by simp, hoffset.symm, Nat.add_left_cancel hstop⟩

/-! ## All fixes at once -/

/-- A source from some place on, with the spans of fixes replaced that stand one behind the other.
    -/
def substituteFrom (source : Text) (start : Nat) : List Fix → Text
  | [] => (source.after? start).getD []
  | f :: rest =>
    (source.slice? start f.offset).getD [] ++ (f.replacement ++ substituteFrom source f.stop rest)

/-- A source with the spans of some fixes replaced, and the text between them as it was. -/
def substitute (source : Text) (fixes : List Fix) : Text :=
  substituteFrom source 0 fixes

/-- Making fixes one after the other that stand one behind the other makes them all at once. -/
theorem applyFrom_eq_substituteFrom (file : Path) {source front back : Text} {fixes : List Fix}
    (hsource : source = front ++ back) (hpairwise : fixes.Pairwise (·.stop ≤ ·.offset))
    (hle : ∀ f ∈ fixes, front.byteLength ≤ f.offset) (hplaced : ∀ f ∈ fixes, f.IsPlaced source) :
    applyFrom file source fixes = .ok (front ++ substituteFrom source front.byteLength fixes) := by
  induction fixes generalizing front back with
  | nil =>
    have hafter : source.after? front.byteLength = some back := by
      rw [hsource, after?_eq_map_splitAt?, splitAt?_append]
      rfl
    rw [substituteFrom, hafter, Option.getD_some, ← hsource]
    rfl
  | cons f rest ih =>
    rw [List.pairwise_cons] at hpairwise
    rw [List.forall_mem_cons] at hle hplaced
    obtain ⟨before, found, after, hcut, hoffset, hlength⟩ := hplaced.1
    obtain ⟨gap, rfl, -⟩ := exists_append_of_byteLength_le (hsource.symm.trans hcut)
      (hoffset ▸ hle.1)
    have hgap : source.slice? front.byteLength f.offset = some gap :=
      slice?_eq_some_iff.2 ⟨front, found ++ after, hcut, rfl, by rw [hoffset, byteLength_append]⟩
    have hstop : f.stop = ((front ++ gap) ++ found).byteLength := by
      rw [stop, hoffset, hlength, ← byteLength_append]
    have hbehind : source = ((front ++ gap) ++ found) ++ after := by simp [hcut]
    have hrest := ih hbehind hpairwise.2 (fun g hg => hstop ▸ hpairwise.1 g hg) hplaced.2
    rw [List.append_assoc] at hrest
    rw [applyFrom_cons hcut hoffset hlength hrest, substituteFrom, hgap, hstop]
    simp

/-- Fixes that stand one behind the other can all be made, and it is as if they were made at once.
    -/
theorem applyFrom_eq_substitute (file : Path) {source : Text} {fixes : List Fix}
    (hpairwise : fixes.Pairwise (·.stop ≤ ·.offset)) (hplaced : ∀ f ∈ fixes, f.IsPlaced source) :
    applyFrom file source fixes = .ok (substitute source fixes) :=
  applyFrom_eq_substituteFrom file (List.nil_append source).symm hpairwise
    (fun f _ => Nat.zero_le f.offset) hplaced

/-! ## Fixes that cannot be made -/

/-- Before the places where fixes start, they leave the text as it is. -/
theorem slice?_of_applyFrom {file : Path} {source text : Text} {fixes : List Fix}
    (h : applyFrom file source fixes = .ok text) {start stop : Nat}
    (hle : ∀ f ∈ fixes, stop ≤ f.offset) : text.slice? start stop = source.slice? start stop := by
  induction fixes generalizing text with
  | nil =>
    obtain rfl : source = text := Except.ok.inj h
    rfl
  | cons f rest ih =>
    obtain ⟨middle, hmiddle, happly⟩ := Except.bind_eq_ok_iff.1 h
    obtain ⟨before, found, after, rfl, hstart, -, rfl⟩ := Edit.exists_of_applyTo happly
    rw [List.forall_mem_cons] at hle
    have hbefore : stop ≤ before.byteLength := hstart ▸ hle.1
    rw [slice?_append_of_le hbefore, ← slice?_append_of_le hbefore, ih hmiddle hle.2]

/-- An edit of a span that holds what it holds in the source fails only if there is no such span. -/
theorem not_isPlaced_of_applyTo {file : Path} {source text : Text} {f : Fix} {cause : EditError}
    (hslice : text.slice? f.offset f.stop = source.slice? f.offset f.stop)
    (h : (f.toEdit file source).applyTo text = .error cause) :
    ¬ f.IsPlaced source ∧ ∀ file start stop found, cause ≠ .changed file start stop found := by
  cases hfound : source.slice? f.offset f.stop with
  | some found =>
    -- Then the edit finds what it expects.
    rw [hfound] at hslice
    obtain ⟨before, after, rfl, hstart, hstop⟩ := slice?_eq_some_iff.1 hslice
    have hmet : (f.toEdit file source).expected.isMet found = true := by
      simp only [toEdit, Edit.make, hfound, Option.getD_some]
      exact Expectation.isMet_ofText found
    rw [List.append_assoc, Edit.applyTo_append hstart.symm (hstart ▸ hstop) (.inr hmet)] at h
    cases h
  | none =>
    rw [hfound] at hslice
    refine ⟨fun hplaced => ?_, ?_⟩
    · obtain ⟨found, hsome⟩ := isPlaced_iff_slice?.1 hplaced
      rw [hfound] at hsome
      cases hsome
    · rintro _ _ _ _ rfl
      have hinspect : text.slice? (f.toEdit file source).start (f.toEdit file source).stop = none :=
        hslice
      simp only [Edit.applyTo, Edit.inspect, hinspect] at h
      split at h <;> cases h

variable {file : Path} {source : Text} {fixes : List Fix}

/-- Fixes that stand one behind the other fail only if the source lacks a span of them. -/
theorem not_isPlaced_of_applyFrom (hpairwise : fixes.Pairwise (·.stop ≤ ·.offset))
    {cause : EditError} (h : applyFrom file source fixes = .error cause) :
    (∃ f ∈ fixes, ¬ f.IsPlaced source) ∧
      ∀ file start stop found, cause ≠ .changed file start stop found := by
  induction fixes with
  | nil => cases h
  | cons f rest ih =>
    rw [List.pairwise_cons] at hpairwise
    rw [applyFrom] at h
    cases hrest : applyFrom file source rest with
    | error earlier =>
      rw [hrest] at h
      obtain rfl : earlier = cause := Except.error.inj h
      obtain ⟨⟨g, hg, hnot⟩, hcause⟩ := ih hpairwise.2 hrest
      exact ⟨⟨g, List.mem_cons_of_mem f hg, hnot⟩, hcause⟩
    | ok text =>
      rw [hrest] at h
      obtain ⟨hnot, hcause⟩ :=
        not_isPlaced_of_applyTo (slice?_of_applyFrom hrest hpairwise.1) h
      exact ⟨⟨f, List.mem_cons_self, hnot⟩, hcause⟩

/-- Fixes that stand one behind the other and can be made have their spans in the source. -/
theorem isPlaced_of_applyFrom (hpairwise : fixes.Pairwise (·.stop ≤ ·.offset)) {text : Text}
    (h : applyFrom file source fixes = .ok text) : ∀ f ∈ fixes, f.IsPlaced source := by
  induction fixes generalizing text with
  | nil => simp
  | cons f rest ih =>
    rw [List.pairwise_cons] at hpairwise
    obtain ⟨middle, hmiddle, happly⟩ := Except.bind_eq_ok_iff.1 h
    refine List.forall_mem_cons.2 ⟨?_, ih hpairwise.2 hmiddle⟩
    obtain ⟨before, found, after, hcut, hstart, hstop, -⟩ := Edit.exists_of_applyTo happly
    have hoffset : f.offset = before.byteLength := hstart
    have hend : f.stop = before.byteLength + found.byteLength := hstop
    have hfound : middle.slice? f.offset f.stop = some found :=
      slice?_eq_some_iff.2 ⟨before, after, by simp [hcut], hoffset.symm, by rw [hend, hoffset]⟩
    rw [slice?_of_applyFrom hmiddle hpairwise.1] at hfound
    exact isPlaced_iff_slice?.2 ⟨found, hfound⟩

/-- Fixes that replace their spans by something leave something of the text. -/
theorem ne_nil_of_applyFrom {file : Path} {source text : Text} {fixes : List Fix} (hne : source ≠ [])
    (hfixes : ∀ f ∈ fixes, f.replacement ≠ []) (h : applyFrom file source fixes = .ok text) :
    text ≠ [] := by
  cases fixes with
  | nil =>
    obtain rfl : source = text := Except.ok.inj h
    exact hne
  | cons f rest =>
    -- The first fix is made last.
    obtain ⟨middle, -, happly⟩ := Except.bind_eq_ok_iff.1 h
    obtain ⟨before, found, after, -, -, -, rfl⟩ := Edit.exists_of_applyTo happly
    have hnew : (f.toEdit file source).newText ≠ [] := hfixes f (List.mem_cons_self ..)
    simp [hnew]

end Fix

/-! ## The pass -/

/-- A pass succeeds if its fixes can be made one after the other. -/
theorem applyFixes_eq_ok_iff {file : Path} {source : Text} {diagnostics : List Diagnostic}
    {pass : FixPass} :
    applyFixes file source diagnostics = .ok pass ↔
      Fix.applyFrom file source (Fix.select (diagnostics.filterMap (·.fix?))) = .ok pass.text ∧
      pass.applied = (Fix.select (diagnostics.filterMap (·.fix?))).length ∧
      pass.skipped = (diagnostics.filterMap (·.fix?)).length -
        (Fix.select (diagnostics.filterMap (·.fix?))).length := by
  obtain ⟨text, applied, skipped⟩ := pass
  simp only [applyFixes, Fix.foldlM_reverse_eq_applyFrom]
  cases Fix.applyFrom file source (Fix.select (diagnostics.filterMap (·.fix?))) with
  | error cause => simp
  | ok result =>
    simp only [Except.ok.injEq, FixPass.mk.injEq]
    constructor
    · rintro ⟨rfl, rfl, rfl⟩
      exact ⟨rfl, rfl, rfl⟩
    · rintro ⟨rfl, rfl, rfl⟩
      exact ⟨rfl, rfl, rfl⟩

/-- A pass fails if one of its fixes cannot be made. -/
theorem applyFixes_eq_error_iff {file : Path} {source : Text} {diagnostics : List Diagnostic}
    {cause : EditError} :
    applyFixes file source diagnostics = .error (.edit cause) ↔
      Fix.applyFrom file source (Fix.select (diagnostics.filterMap (·.fix?))) = .error cause := by
  simp only [applyFixes, Fix.foldlM_reverse_eq_applyFrom]
  cases Fix.applyFrom file source (Fix.select (diagnostics.filterMap (·.fix?))) with
  | error found => simp
  | ok text => simp

end ClassSpacing
