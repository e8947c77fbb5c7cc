import ClassSpacing.Proofs.Fix.Result
import ClassSpacing.Proofs.Rule.Steady

/-!
# Every pass changes the text

The first fix of a pass is the last one that is made, and what stands before it is never touched.
Behind that place the old text and the new one differ in whether a blank line or the first line of
the member comes next, whatever the other fixes do further down. Hence a pass is never in vain, and
fixing ends because nothing fixable is left, because the next pass is rejected, or because no more
passes are allowed; only in the last case can fixing once more change anything.
-/

namespace ClassSpacing

open Text

/-! ## Members that start with something -/

/-- The nodes that a member's anchor can be the start of are solid. -/
structure Member.IsSolid (source : Text) (m : Member) : Prop where
  head : m.head.span.IsSolid source
  comments : ∀ t ∈ m.aboveHead, t.kind = .comment → t.span.IsSolid source

variable {source : Text}

/-- The members of a well-formed tree start with something. -/
theorem Member.IsSolid.of_wellFormed {tree : Tree} (htree : tree.WellFormed source) {m : Member}
    (hm : m ∈ tree.members source) : m.IsSolid source := by
  obtain ⟨-, hmarked, hnodes⟩ := htree.of_mem_members hm
  rw [List.forall_mem_cons, List.forall_mem_cons] at hnodes
  obtain ⟨-, hhead, habove⟩ := hnodes
  refine ⟨hhead.1.isSolid hmarked, fun t ht hkind => ?_⟩
  exact (habove t ht).1.isSolid (by simp [hkind, Kind.isMarked])

theorem Member.IsSolid.cut {m : Member} (h : m.IsSolid source) {c : Cut source} {body : Tree}
    (hchecked : m.IsChecked source c body) : c.IsSolid := by
  have hanchor := hchecked.anchor_eq
  rcases m.anchor_eq_start source (.ofText source) with heq | ⟨t, ht, hkind, heq⟩
  · exact h.head.cut (by rw [← hanchor, heq])
  · exact (h.comments t ht hkind).cut (by rw [← hanchor, heq])

/-! ## The first fix of a pass -/

namespace Rule

variable {rule : Rule}

/-- A fix that deletes lines deletes at least one. -/
theorem newline_mem_of_excess {gap : Text} {present : Nat}
    (h : rule.spacing.judge present = .excess (gap.count '\n')) : '\n' ∈ gap :=
  List.count_pos_iff.1 (Spacing.judge_sub_of_excess h).1

/-- No fix starts right at a cut above which lines are superfluous. -/
theorem Proposes.offset_ne {c d : Cut source} {g : Fix} (hg : rule.Proposes d g) (hc : c.IsSolid)
    {extra : Nat} (hexcess : rule.spacing.judge (blankRun c.above) = .excess extra) :
    g.offset ≠ c.offset := by
  intro heq
  obtain ⟨text, after, hrest, hmends⟩ := hg
  obtain ⟨top, gap, new, hexchange, hcases⟩ := hmends.exists_exchanges
  have hcut := hexchange.source_eq hrest
  rw [hexchange.offset_eq] at heq
  rcases hcases with ⟨missing, houtcome, rfl, -⟩ | ⟨houtcome, -⟩
  · -- Both cuts have the same lines above them, but not the same outcome.
    have hfront : (c.above ++ c.indent) ++ c.rest = d.above ++ (d.indent ++ d.rest) := by
      rw [List.append_assoc, ← c.source_eq, ← d.source_eq]
    have habove : d.above = top := by simpa using hexchange.above_eq
    obtain ⟨hsame, -⟩ := append_inj_of_byteLength hfront (by
      rw [byteLength_append, habove]
      exact heq.symm)
    have hindent : c.indent = [] :=
      (EndsLine.of_append (hsame ▸ d.endsLine)).eq_nil c.sameLine
    rw [hindent, List.append_nil] at hsame
    rw [← hsame, hexcess] at houtcome
    simp at houtcome
  · have hgap : gap ≠ [] := List.ne_nil_of_mem (newline_mem_of_excess houtcome)
    rw [List.append_assoc] at hcut
    have hnot := hc.not_blank hcut heq.symm hgap
    rw [hexchange.isBlank_gap] at hnot
    simp at hnot

/-- No empty fix stands where blank lines start. -/
theorem Proposes.length_ne_zero {d : Cut source} {g : Fix} (hg : rule.Proposes d g) (hd : d.IsSolid)
    {top gap back : Text} (hsource : source = top ++ (gap ++ back)) (hne : gap ≠ [])
    (hblank : gap.isBlank = true) (hoffset : g.offset = top.byteLength) : g.length ≠ 0 := by
  intro hlen
  obtain ⟨text, after, -, hmends⟩ := hg
  obtain ⟨top', gap', new, hexchange, -⟩ := hmends.exists_exchanges
  rw [hexchange.length_eq, byteLength_append, byteLength_append] at hlen
  have hdoffset : d.offset = top.byteLength := by
    have := hexchange.offset_eq
    rw [Cut.offset, hexchange.above_eq, byteLength_append]
    omega
  have hnot := hd.not_blank hsource hdoffset hne
  rw [hblank] at hnot
  simp at hnot

/-- A fix that starts behind a cut leaves the character at the cut alone. -/
theorem Proposes.le_offset_of_lt {c d : Cut source} {g : Fix} (hg : rule.Proposes d g) {e : Char}
    {below : Text} (hc : c.rest = e :: below) (hlt : c.offset < g.offset) :
    ((c.above ++ c.indent) ++ [e]).byteLength ≤ g.offset := by
  obtain ⟨text, after, hrest, hmends⟩ := hg
  obtain ⟨top, gap, new, hexchange, -⟩ := hmends.exists_exchanges
  rw [hexchange.offset_eq] at hlt ⊢
  have hcut : (c.above ++ c.indent) ++ c.rest = top ++ ((gap ++ (d.indent ++ text)) ++ after) := by
    rw [List.append_assoc, ← c.source_eq, ← hexchange.source_eq hrest]
  obtain ⟨x, rfl, hx⟩ := exists_append_of_byteLength_le hcut (by
    simpa [Cut.offset] using Nat.le_of_lt hlt)
  cases x with
  | nil => simp [Cut.offset] at hlt
  | cons a x =>
    rw [hc, List.cons_append] at hx
    obtain rfl := (List.cons.inj hx).1
    simp only [byteLength_append, byteLength_cons, byteLength_nil]
    omega

/-- Where the first fix of a pass deletes lines above a cut and ends there, the others leave the
    character at the cut alone. -/
theorem le_offset_of_isChain {c : Cut source} {f : Fix} {rest : List Fix} {e : Char}
    {top gap new below : Text} (hc : c.rest = e :: below) (he : isSpace e = false)
    (houtcome : rule.spacing.judge (blankRun c.above) = .excess (gap.count '\n'))
    (hexchange : c.Exchanges [] f top gap new)
    (hsorted : (f :: rest).Pairwise (·.offset ≤ ·.offset))
    (hchain : (f :: rest).IsChain (fun f g => f.overlaps g = false))
    (hrest : ∀ g ∈ rest, ∃ d : Cut source, rule.Proposes d g ∧ d.IsSolid) {g : Fix} (hg : g ∈ rest) :
    ((c.above ++ c.indent) ++ [e]).byteLength ≤ g.offset := by
  rw [List.pairwise_cons] at hsorted
  have hstop : f.stop = c.offset := by
    rw [Fix.stop, hexchange.offset_eq, hexchange.length_eq, Cut.offset, hexchange.above_eq]
    simp only [List.append_nil, byteLength_append]
    omega
  -- The next fix does not start above the cut, and so no later one does.
  have hle : c.offset ≤ g.offset := by
    cases rest with
    | nil => simp at hg
    | cons h rest =>
      have hfh := hsorted.1 h (List.mem_cons_self ..)
      have hhg : h.offset ≤ g.offset := by
        rcases List.mem_cons.1 hg with rfl | hg
        · exact Nat.le_refl _
        · exact (List.pairwise_cons.1 hsorted.2).1 g hg
      rcases Fix.not_overlaps_iff.1 (List.isChain_cons_cons.1 hchain).1 with hempty | hbehind
      · exfalso
        obtain ⟨d, hproposes, hd⟩ := hrest h (List.mem_cons_self ..)
        have hsource := hexchange.source_eq (List.nil_append c.rest).symm
        have hgap : gap ≠ [] := List.ne_nil_of_mem (newline_mem_of_excess houtcome)
        rw [List.append_assoc] at hsource
        rw [Fix.stop] at hempty
        exact hproposes.length_ne_zero hd hsource hgap hexchange.isBlank_gap
          (by rw [← hexchange.offset_eq]; omega) (by omega)
      · rw [← hstop]
        exact Nat.le_trans hbehind hhg
  obtain ⟨d, hproposes, -⟩ := hrest g hg
  have hne := hproposes.offset_ne ⟨e, below, hc, he⟩ houtcome
  exact hproposes.le_offset_of_lt hc (by omega)

/-- What comes behind the indentation when the first fix of a pass deletes lines: the first character
    of the member, which is a part of the fix or is left alone by the others. -/
theorem exists_cons_of_excess {file : Path} {c : Cut source} {f : Fix} {rest : List Fix} {e : Char}
    {body after top gap new below found back : Text} (hc : c.rest = e :: below)
    (he : isSpace e = false) (hbody : c.rest = body ++ after)
    (houtcome : rule.spacing.judge (blankRun c.above) = .excess (gap.count '\n'))
    (hexchange : c.Exchanges body f top gap new)
    (hsorted : (f :: rest).Pairwise (·.offset ≤ ·.offset))
    (hchain : (f :: rest).IsChain (fun f g => f.overlaps g = false))
    (hrest : ∀ g ∈ rest, ∃ d : Cut source, rule.Proposes d g ∧ d.IsSolid)
    (hmiddle : Fix.applyFrom file source rest = .ok (top ++ (found ++ back)))
    (hlength : f.length = found.byteLength) : ∃ t, body ++ back = e :: t := by
  cases body with
  | cons a body =>
    rw [hc, List.cons_append] at hbody
    obtain rfl := (List.cons.inj hbody).1
    exact ⟨body ++ back, rfl⟩
  | nil =>
    have hsource : source = ((c.above ++ c.indent) ++ [e]) ++ below :=
      c.source_eq.trans (by simp [hc])
    obtain ⟨tail, htail⟩ := Fix.exists_append_of_applyFrom hmiddle hsource fun g hg =>
      le_offset_of_isChain hc he houtcome hexchange hsorted hchain hrest hg
    have hcut : (top ++ found) ++ back = (top ++ (gap ++ c.indent)) ++ (e :: tail) := by
      simpa [hexchange.above_eq] using htail
    have hlen : (top ++ found).byteLength = (top ++ (gap ++ c.indent)).byteLength := by
      rw [byteLength_append, ← hlength, hexchange.length_eq]
      simp
    exact ⟨tail, (append_inj_of_byteLength hcut hlen).2⟩

/-- Making fixes of the rule changes the text. -/
theorem applyFrom_ne {file : Path} {text : Text} {fixes : List Fix} (hne : fixes ≠ [])
    (hsorted : fixes.Pairwise (·.offset ≤ ·.offset))
    (hchain : fixes.IsChain (fun f g => f.overlaps g = false))
    (hfixes : ∀ f ∈ fixes, ∃ c : Cut source, rule.Proposes c f ∧ c.IsSolid)
    (h : Fix.applyFrom file source fixes = .ok text) : text ≠ source := by
  obtain ⟨f, rest, rfl⟩ := List.exists_cons_of_ne_nil hne
  obtain ⟨c, ⟨body, after, hrest, hmends⟩, e, below, hc, he⟩ := hfixes f (List.mem_cons_self ..)
  have hothers := fun g hg => hfixes g (List.mem_cons_of_mem f hg)
  obtain ⟨top, gap, new, hexchange, hcases⟩ := hmends.exists_exchanges
  have hsource := hexchange.source_eq hrest
  obtain ⟨middle, hmiddle, happly⟩ := Except.bind_eq_ok_iff.1 h
  obtain ⟨tail, rfl⟩ := Fix.exists_append_of_applyFrom hmiddle hsource fun g hg => by
    rw [← hexchange.offset_eq]
    exact (List.pairwise_cons.1 hsorted).1 g hg
  obtain ⟨before, found, back, hcut, hstart, hstop, rfl⟩ := Edit.exists_of_applyTo happly
  obtain ⟨rfl, rfl⟩ := append_inj_of_byteLength hcut (hexchange.offset_eq.symm.trans hstart)
  -- Both texts go on differently behind the lines above this fix.
  have hsolid : source = top ++ (gap ++ (c.indent ++ e :: below)) :=
    c.source_eq.trans (by simp [hexchange.above_eq, hc])
  intro heq
  have hback : f.replacement ++ back = gap ++ (c.indent ++ e :: below) :=
    List.append_cancel_left (heq.trans hsolid)
  rw [hexchange.replacement_eq] at hback
  rcases hcases with ⟨missing, houtcome, rfl, hnew⟩ | ⟨houtcome, rfl⟩
  · have hpos := (Spacing.judge_add_of_shortfall houtcome).1
    obtain ⟨-, -, hcount⟩ := (LineTable.ofText source).repeated_newline missing
    have hmem : '\n' ∈ new := List.count_pos_iff.1 (by rw [hnew, hcount]; exact hpos)
    rw [List.append_assoc, List.nil_append] at hback
    exact blank_append_ne hexchange.isBlank_new hmem c.sameLine he _ _ hback
  · have hgap := newline_mem_of_excess houtcome
    rw [List.nil_append, List.append_assoc] at hback
    have hlength : f.length = found.byteLength := by
      have hoffset : f.offset = top.byteLength := hexchange.offset_eq
      have hend : f.offset + f.length = top.byteLength + found.byteLength := hstop
      omega
    obtain ⟨t, ht⟩ := exists_cons_of_excess hc he hrest houtcome hexchange hsorted hchain hothers
      hmiddle hlength
    rw [ht] at hback
    exact blank_append_ne hexchange.isBlank_gap hgap c.sameLine he _ _ hback.symm

/-- A pass over a source with something to fix changes it. -/
theorem applyFixes_ne {file : Path} {tree : Tree} {pass : FixPass}
    (hsolid : ∀ m ∈ tree.members source, m.IsSolid source)
    (hfixable : (rule.check source tree).any (·.isFixable) = true)
    (h : applyFixes file source (rule.check source tree) = .ok pass) : pass.text ≠ source := by
  obtain ⟨happly, -, -⟩ := applyFixes_eq_ok_iff.1 h
  have hne : (rule.check source tree).filterMap (·.fix?) ≠ [] := by
    obtain ⟨d, hd, hfix⟩ := List.any_eq_true.1 hfixable
    obtain ⟨f, hf⟩ := Option.isSome_iff_exists.1 hfix
    exact List.ne_nil_of_mem (List.mem_filterMap.2 ⟨d, hd, hf⟩)
  have hproposes : ∀ f ∈ Fix.select ((rule.check source tree).filterMap (·.fix?)),
      ∃ c : Cut source, rule.Proposes c f ∧ c.IsSolid := by
    intro f hf
    obtain ⟨d, hd, hfix⟩ := List.mem_filterMap.1 (Fix.mem_of_mem_select hf)
    obtain ⟨m, hm, -, hdiagnostic⟩ := rule.mem_check.1 hd
    obtain ⟨c, text, hflags⟩ := rule.exists_flags_of_diagnostic? hdiagnostic
    obtain ⟨body, hchecked⟩ := hflags.isChecked
    exact ⟨c, hflags.proposes hfix, (hsolid m hm).cut hchecked⟩
  exact applyFrom_ne (Fix.select_ne_nil hne) (Fix.pairwise_offset_select _) (Fix.isChain_select _)
    hproposes happly

end Rule

/-! ## How fixing ends -/

namespace FixTask

variable {task : FixTask}

/-- The text of a state is checked last of all. -/
theorem Reaches.head?_history {s : FixOutcome} (h : task.Reaches source s) :
    ∃ verdicts, s.history.head? = some (.checked verdicts) := by
  cases h with
  | start => exact ⟨_, rfl⟩
  | step _ step => cases step; exact ⟨_, rfl⟩

/-- A pass over a text that was checked changes it. -/
theorem applyFixes_ne_of_lint
    (hsolid : ∀ text, ∀ m ∈ (task.read task.dialect text).members text, m.IsSolid text)
    {text : Text} {diagnostics : List Diagnostic} {pass : FixPass}
    (hlint : task.rule.lint task.read task.dialect text = .ok diagnostics)
    (hfixable : diagnostics.any (·.isFixable) = true)
    (h : applyFixes task.file text diagnostics = .ok pass) : pass.text ≠ text := by
  obtain ⟨-, rfl⟩ := Rule.lint_eq_ok_iff.1 hlint
  exact Rule.applyFixes_ne (hsolid text) hfixable h

/-- Fixing from a state that no accepted pass leads on from changes nothing. -/
theorem fix_eq_of_ends {s outcome : FixOutcome} (hreaches : task.Reaches source s)
    (hends : task.Ends s outcome) (hpasses : s.passes < maxFixPasses)
    (hchanges : ∀ pass, s.remaining.any (·.isFixable) = true →
      applyFixes task.file s.text s.remaining = .ok pass → pass.text ≠ s.text) :
    ∃ again, task.fix s.text = .ok again ∧ again.text = s.text ∧ again.remaining = s.remaining ∧
      again.passes = 0 ∧ again.applied = 0 := by
  obtain ⟨hne, hremaining⟩ := Rule.lint_eq_ok_iff.1 hreaches.lint_eq
  have hchecked : task.rule.verdictsOn task.read task.dialect s.text =
      .ok (task.rule.verdicts s.text (task.read task.dialect s.text)) :=
    Rule.verdictsOn_eq_ok_iff.2 ⟨hne, rfl⟩
  obtain ⟨budget, hbudget⟩ : ∃ budget, maxFixPasses = budget + 1 := ⟨9, rfl⟩
  rw [fix_eq_run hchecked, hbudget]
  rw [hremaining] at hchanges ⊢
  -- The first round meets what the last round met.
  cases hends with
  | exhausted h => omega
  | clean h =>
    rw [hremaining] at h
    exact ⟨_, run_clean h _, rfl, rfl, rfl, rfl⟩
  | rejected fixable applied h =>
    rw [hremaining] at fixable applied
    exact ⟨_, run_rejected (s := startState s.text _) fixable applied h budget, rfl, rfl, rfl, rfl⟩
  | unchanged fixable applied _ h =>
    rw [hremaining] at fixable applied
    exact absurd h (hchanges _ fixable applied)

/-- A result of fixing comes with the complaints about its text. No pass is in vain, so fixing ends
    because nothing fixable is left, because the next pass would bring new faults, or because no more
    passes are allowed; in the first two cases fixing again changes nothing. -/
theorem fix_settles {outcome : FixOutcome}
    (hsolid : ∀ text, ∀ m ∈ (task.read task.dialect text).members text, m.IsSolid text)
    (hfix : task.fix source = .ok outcome) :
    task.rule.lint task.read task.dialect outcome.text = .ok outcome.remaining ∧
      (∀ text diagnostics pass,
        task.rule.lint task.read task.dialect text = .ok diagnostics →
        diagnostics.any (·.isFixable) = true →
        applyFixes task.file text diagnostics = .ok pass → pass.text ≠ text) ∧
      (∀ number applied skipped,
        outcome.history.head? ≠ some (.passed number applied skipped)) ∧
      (outcome.remaining.any (·.isFixable) = false ∨
        (∃ pass cause, applyFixes task.file outcome.text outcome.remaining = .ok pass ∧
          task.read.validateChange task.dialect outcome.text pass.text = .error cause) ∨
        outcome.passes = maxFixPasses) ∧
      (outcome.passes < maxFixPasses → ∃ again, task.fix outcome.text = .ok again ∧
        again.text = outcome.text ∧ again.remaining = outcome.remaining ∧
        again.passes = 0 ∧ again.applied = 0) := by
  obtain ⟨last, hreaches, hends⟩ := exists_reaches_of_fix hfix
  have hlint := hreaches.lint_eq
  have hchanges : ∀ text diagnostics pass,
      task.rule.lint task.read task.dialect text = .ok diagnostics →
      diagnostics.any (·.isFixable) = true →
      applyFixes task.file text diagnostics = .ok pass → pass.text ≠ text :=
    fun text diagnostics pass => applyFixes_ne_of_lint hsolid
  have hagain := fun hpasses => fix_eq_of_ends hreaches hends hpasses fun pass hfixable happlied =>
    hchanges _ _ _ hlint hfixable happlied
  obtain ⟨verdicts, hhistory⟩ := hreaches.head?_history
  cases hends with
  | exhausted h => exact ⟨hlint, hchanges, by simp [hhistory], .inr (.inr h), hagain⟩
  | clean h => exact ⟨hlint, hchanges, by simp [hhistory], .inl h, hagain⟩
  | rejected fixable applied h =>
    exact ⟨hlint, hchanges, by simp, .inr (.inl ⟨_, _, applied, h⟩), hagain⟩
  | unchanged fixable applied _ h => exact absurd h (hchanges _ _ _ hlint fixable applied)

theorem fix_nested_settles :
    (∀ text, ∀ m ∈ (Nested.task.read Nested.task.dialect text).members text, m.IsSolid text) ∧
      ∃ outcome, Nested.task.fix Nested.source = .ok outcome ∧
        Nested.task.rule.lint Nested.task.read Nested.task.dialect outcome.text =
          .ok outcome.remaining ∧
        (outcome.passes < maxFixPasses → ∃ again, Nested.task.fix outcome.text = .ok again ∧
          again.text = outcome.text ∧ again.remaining = outcome.remaining ∧
          again.passes = 0 ∧ again.applied = 0) := by
  have hsolid : ∀ text, ∀ m ∈ (Nested.task.read Nested.task.dialect text).members text,
      m.IsSolid text := fun text m => .of_wellFormed (Nested.wellFormed_read text)
  obtain ⟨outcome, hfix⟩ := exists_fix_eq_ok
    (fun text m => .of_wellFormed (Nested.wellFormed_read text)) (show Nested.source ≠ [] by decide)
  obtain ⟨hlint, -, -, -, hagain⟩ := fix_settles hsolid hfix
  exact ⟨hsolid, outcome, hfix, hlint, hagain⟩

end FixTask

end ClassSpacing
