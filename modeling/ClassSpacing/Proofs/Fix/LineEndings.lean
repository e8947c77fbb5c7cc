import ClassSpacing.Proofs.Fix.Result
import ClassSpacing.Proofs.Rule.LineEndings
import ClassSpacing.Proofs.Rule.Steady
import ClassSpacing.Proofs.Tree.Faults

/-!
# Line ends and fixing

A text with carriage returns is fixed like the text without them. A pass takes the same fixes, since
moving places keeps their order, and each of them finds its span and leaves the same lines behind. So
the two go through the same passes, step by step, and every text of the one is the text of the other
with a carriage return before each line feed.
-/

namespace ClassSpacing

open Text

/-! ## The fixes of a pass -/

namespace Fix

variable {source : Text}

theorem stop_crlf (source : Text) (f : Fix) : (f.crlf source).stop = source.crlfOffset f.stop := by
  have hle : source.crlfOffset f.offset ≤ source.crlfOffset f.stop :=
    source.crlfOffset_le_iff.2 (Nat.le_add_right ..)
  simp only [stop, crlf] at hle ⊢
  omega

theorem precedes_crlf (source : Text) (f g : Fix) :
    (f.crlf source).precedes (g.crlf source) = f.precedes g := by
  have hoffset : (f.crlf source).offset < (g.crlf source).offset ↔ f.offset < g.offset :=
    source.crlfOffset_lt_iff
  have heq : (f.crlf source).offset = (g.crlf source).offset ↔ f.offset = g.offset :=
    source.crlfOffset_inj
  have hstop : (g.crlf source).stop ≤ (f.crlf source).stop ↔ g.stop ≤ f.stop := by
    rw [stop_crlf, stop_crlf, source.crlfOffset_le_iff]
  rw [Bool.eq_iff_iff]
  simp only [precedes, Bool.or_eq_true, Bool.and_eq_true, decide_eq_true_eq, beq_iff_eq, stop]
    at hstop ⊢
  omega

theorem overlaps_crlf (source : Text) (f g : Fix) :
    (f.crlf source).overlaps (g.crlf source) = f.overlaps g := by
  have hfg : (f.crlf source).offset < (g.crlf source).stop ↔ f.offset < g.stop := by
    rw [stop_crlf]
    exact source.crlfOffset_lt_iff
  have hgf : (g.crlf source).offset < (f.crlf source).stop ↔ g.offset < f.stop := by
    rw [stop_crlf]
    exact source.crlfOffset_lt_iff
  simp only [overlaps, hfg, hgf]

/-- A pass takes the same fixes. -/
theorem select_crlf (source : Text) (fixes : List Fix) :
    select (fixes.map (crlf source)) = (select fixes).map (crlf source) :=
  select_map (crlf source) (overlaps_crlf source) (precedes_crlf source) fixes

/-- Fixes that stand one behind the other leave the same text behind. -/
theorem applyFrom_crlf (file : Path) {fixes : List Fix}
    (hpairwise : fixes.Pairwise (·.stop ≤ ·.offset)) (hplaced : ∀ f ∈ fixes, f.IsPlaced source)
    {text : Text} (h : applyFrom file source fixes = .ok text) :
    applyFrom file source.crlf (fixes.map (crlf source)) = .ok text.crlf := by
  induction fixes generalizing text with
  | nil =>
    obtain rfl : source = text := Except.ok.inj h
    rfl
  | cons f rest ih =>
    rw [List.pairwise_cons] at hpairwise
    obtain ⟨middle, hmiddle, -⟩ := Except.bind_eq_ok_iff.1 h
    obtain ⟨before, found, after, hsource, hoffset, hlength⟩ := hplaced f List.mem_cons_self
    obtain ⟨tail, rfl, happly⟩ :=
      exists_tail_of_applyFrom hmiddle hpairwise.1 hsource hoffset hlength
    obtain rfl := Except.ok.inj (h.symm.trans happly)
    have hrest := ih hpairwise.2 (fun g hg => hplaced g (List.mem_cons_of_mem _ hg)) hmiddle
    have hstart : (f.crlf source).offset = byteLength before.crlf := by
      rw [crlf, hoffset, hsource, crlfOffset_byteLength]
    have hstop : (f.crlf source).stop = byteLength (Text.crlf (before ++ found)) := by
      rw [stop_crlf, stop, hoffset, hlength, ← byteLength_append, hsource, ← List.append_assoc,
        crlfOffset_byteLength]
    have hlen : (f.crlf source).length = byteLength found.crlf := by
      rw [stop, hstart, crlf_append, byteLength_append] at hstop
      omega
    have hcut : source.crlf = before.crlf ++ (found.crlf ++ after.crlf) := by
      rw [hsource]
      simp
    rw [crlf_append, crlf_append] at hrest
    rw [List.map_cons, applyFrom_cons hcut hstart hlen hrest]
    simp [crlf]

/-- Nothing but the source and the replacements goes into the result. -/
theorem not_mem_of_applyFrom {file : Path} {text : Text} {fixes : List Fix} {c : Char}
    (hsource : c ∉ source) (hfixes : ∀ f ∈ fixes, c ∉ f.replacement)
    (h : applyFrom file source fixes = .ok text) : c ∉ text := by
  induction fixes generalizing text with
  | nil =>
    obtain rfl : source = text := Except.ok.inj h
    exact hsource
  | cons f rest ih =>
    obtain ⟨middle, hmiddle, happly⟩ := Except.bind_eq_ok_iff.1 h
    have hfree := ih (fun g hg => hfixes g (List.mem_cons_of_mem _ hg)) hmiddle
    obtain ⟨before, found, after, rfl, -, -, rfl⟩ := Edit.exists_of_applyTo happly
    have hnew : c ∉ (f.toEdit file source).newText := hfixes f List.mem_cons_self
    simp only [List.mem_append, not_or] at hfree ⊢
    exact ⟨hfree.1, hnew, hfree.2.2⟩

end Fix

/-! ## One pass -/

namespace Rule

variable {rule : Rule} {source : Text}

/-- The fixes for a text without carriage returns bring none in. -/
theorem Proposes.not_mem_return {c : Cut source} {f : Fix} (h : rule.Proposes c f)
    (hsource : '\r' ∉ source) : '\r' ∉ f.replacement := by
  obtain ⟨text, after, hrest, hmends⟩ := h
  obtain ⟨top, gap, new, hexchange, hcases⟩ := hmends.exists_exchanges
  have hnew : '\r' ∉ new := by
    rcases hcases with ⟨missing, -, -, rfl⟩ | ⟨-, rfl⟩
    · rw [LineTable.newline_of_not_mem hsource]
      simp [repeated]
    · exact List.not_mem_nil
  rw [c.source_eq, hrest] at hsource
  simp only [List.mem_append, not_or] at hsource
  rw [hexchange.replacement_eq]
  simp [hnew, hsource.2.1, hsource.2.2.1]

/-- A pass over the text with carriage returns does the same as one over the text without them. -/
theorem applyFixes_crlf {file : Path} {tree : Tree} {pass : FixPass} (h : '\r' ∉ source)
    (horder : ∀ m ∈ tree.members source, m.InOrder)
    (hpass : applyFixes file source (rule.check source tree) = .ok pass) :
    '\r' ∉ pass.text ∧
      applyFixes file source.crlf (rule.check source.crlf (tree.shift source.crlfOffset)) =
        .ok { pass with text := pass.text.crlf } := by
  obtain ⟨htext, happlied, hskipped⟩ := applyFixes_eq_ok_iff.1 hpass
  have hproposes : ∀ f ∈ Fix.select ((rule.check source tree).filterMap (·.fix?)),
      ∃ c : Cut source, rule.Proposes c f :=
    fun f hf => (proposes_of_mem_check horder (Fix.mem_of_mem_select hf)).1
  have hfixes : (rule.check source.crlf (tree.shift source.crlfOffset)).filterMap (·.fix?) =
      ((rule.check source tree).filterMap (·.fix?)).map (Fix.crlf source) := by
    rw [rule.check_crlf h, List.filterMap_map, List.map_filterMap]
    rfl
  constructor
  · refine Fix.not_mem_of_applyFrom h (fun f hf => ?_) htext
    obtain ⟨c, hc⟩ := hproposes f hf
    exact hc.not_mem_return h
  · have hplaced : ∀ f ∈ Fix.select ((rule.check source tree).filterMap (·.fix?)),
        f.IsPlaced source := by
      intro f hf
      obtain ⟨c, hc⟩ := hproposes f hf
      exact hc.isPlaced
    rw [applyFixes_eq_ok_iff, hfixes, Fix.select_crlf, List.length_map, List.length_map]
    exact ⟨Fix.applyFrom_crlf file (rule.pairwise_select_check horder) hplaced htext, happlied,
      hskipped⟩

end Rule

/-! ## All passes -/

/-- A state of fixing the text with carriage returns, next to the one of fixing the text without
    them. -/
structure FixOutcome.Mirrors (s s' : FixOutcome) : Prop where
  text_eq : s'.text = s.text.crlf
  passes_eq : s'.passes = s.passes
  applied_eq : s'.applied = s.applied
  remaining_eq : s'.remaining = s.remaining.map (Diagnostic.crlf s.text)

theorem FixOutcome.Mirrors.any_isFixable {s s' : FixOutcome} (h : s.Mirrors s') :
    s'.remaining.any (·.isFixable) = s.remaining.any (·.isFixable) := by
  rw [h.remaining_eq, List.any_map]
  congr 1
  funext d
  exact d.isFixable_crlf s.text

namespace FixTask

variable {task : FixTask}

/-- A reader to which carriage returns before line feeds make no other difference than where nodes
    are. -/
def IgnoresReturns (task : FixTask) : Prop :=
  ∀ text, '\r' ∉ text →
    task.read task.dialect text.crlf = (task.read task.dialect text).shift text.crlfOffset

/-- A pass is accepted in both texts or in none. -/
theorem IgnoresReturns.validateChange_crlf (hread : task.IgnoresReturns) {old new : Text}
    (hold : '\r' ∉ old) (hnew : '\r' ∉ new) :
    task.read.validateChange task.dialect old.crlf new.crlf = .ok () ↔
      task.read.validateChange task.dialect old new = .ok () := by
  rw [Reader.validateChange_eq_ok_iff, Reader.validateChange_eq_ok_iff, hread old hold,
    hread new hnew, Tree.length_faults_shift, Tree.length_faults_shift]

theorem IgnoresReturns.check_crlf (hread : task.IgnoresReturns) {text : Text} (h : '\r' ∉ text) :
    task.rule.check text.crlf (task.read task.dialect text.crlf) =
      (task.rule.check text (task.read task.dialect text)).map (Diagnostic.crlf text) := by
  rw [hread text h, Rule.check_crlf _ h]

/-- The next pass is the same in two states that mirror each other. -/
theorem IgnoresReturns.exists_pass (hread : task.IgnoresReturns)
    (horder : ∀ text, ∀ m ∈ (task.read task.dialect text).members text, m.InOrder)
    {s s' : FixOutcome} (hfree : '\r' ∉ s.text)
    (hlint : task.rule.lint task.read task.dialect s.text = .ok s.remaining)
    (hmirrors : s.Mirrors s') :
    ∃ pass, applyFixes task.file s.text s.remaining = .ok pass ∧
      applyFixes task.file s'.text s'.remaining = .ok { pass with text := pass.text.crlf } ∧
      '\r' ∉ pass.text ∧ pass.text ≠ [] := by
  obtain ⟨hne, hremaining⟩ := Rule.lint_eq_ok_iff.1 hlint
  obtain ⟨pass, happlied, hpassNe⟩ := Rule.exists_applyFixes task.file (horder s.text) hne
  obtain ⟨hpassFree, happlied'⟩ := Rule.applyFixes_crlf hfree (horder s.text) happlied
  rw [← hread s.text hfree, hread.check_crlf hfree, ← hremaining, ← hmirrors.remaining_eq,
    ← hmirrors.text_eq] at happlied'
  rw [← hremaining] at happlied
  exact ⟨pass, happlied, happlied', hpassFree, hpassNe⟩

/-- The states after the same pass mirror each other. -/
theorem IgnoresReturns.mirrors_nextState (hread : task.IgnoresReturns) {s s' : FixOutcome}
    (hmirrors : s.Mirrors s') {pass : FixPass} (hfree : '\r' ∉ pass.text) :
    (nextState s pass (task.rule.verdicts pass.text
      (task.read task.dialect pass.text))).Mirrors
      (nextState s' { pass with text := pass.text.crlf } (task.rule.verdicts pass.text.crlf
        (task.read task.dialect pass.text.crlf))) where
  text_eq := rfl
  passes_eq := by simp [nextState, hmirrors.passes_eq]
  applied_eq := by simp [nextState, hmirrors.applied_eq]
  remaining_eq := hread.check_crlf hfree

/-- The loop does the same from two states that mirror each other. -/
theorem IgnoresReturns.exists_run (hread : task.IgnoresReturns)
    (horder : ∀ text, ∀ m ∈ (task.read task.dialect text).members text, m.InOrder)
    {s s' : FixOutcome} (hfree : '\r' ∉ s.text)
    (hlint : task.rule.lint task.read task.dialect s.text = .ok s.remaining)
    (hmirrors : s.Mirrors s') (budget : Nat) :
    ∃ outcome outcome', task.run budget s = .ok outcome ∧ task.run budget s' = .ok outcome' ∧
      outcome.Mirrors outcome' := by
  induction budget generalizing s s' with
  | zero => exact ⟨s, s', rfl, rfl, hmirrors⟩
  | succ budget ih =>
    have hany := hmirrors.any_isFixable
    cases hfixable : s.remaining.any (·.isFixable) with
    | false => exact ⟨s, s', run_clean hfixable _, run_clean (hany.trans hfixable) _, hmirrors⟩
    | true =>
      have hfixable' := hany.trans hfixable
      obtain ⟨pass, happlied, happlied', hpassFree, hpassNe⟩ :=
        hread.exists_pass horder hfree hlint hmirrors
      have hvalid := hread.validateChange_crlf hfree hpassFree
      rw [← hmirrors.text_eq] at hvalid
      cases haccepted : task.read.validateChange task.dialect s.text pass.text with
      | error cause =>
        rw [haccepted] at hvalid
        cases haccepted' : task.read.validateChange task.dialect s'.text pass.text.crlf with
        | ok => exact absurd (hvalid.1 haccepted') nofun
        | error cause' =>
          exact ⟨_, _, run_rejected hfixable happlied haccepted budget,
            run_rejected hfixable' happlied' haccepted' budget,
            hmirrors.text_eq, hmirrors.passes_eq, hmirrors.applied_eq, hmirrors.remaining_eq⟩
      | ok =>
        have haccepted' := hvalid.2 haccepted
        by_cases hsame : pass.text = s.text
        · have hsame' : pass.text.crlf = s'.text := by rw [hsame, hmirrors.text_eq]
          exact ⟨_, _, run_unchanged hfixable happlied haccepted hsame budget,
            run_unchanged hfixable' happlied' haccepted' hsame' budget,
            hmirrors.text_eq, by simp [hmirrors.passes_eq], by simp [hmirrors.applied_eq],
            hmirrors.remaining_eq⟩
        · have hsame' : pass.text.crlf ≠ s'.text := by
            rw [hmirrors.text_eq]
            exact mt (crlf_inj hpassFree hfree).1 hsame
          have hstep : task.Step s (nextState s pass _) :=
            .pass hfixable happlied haccepted hsame (Rule.verdictsOn_eq_ok_iff.2 ⟨hpassNe, rfl⟩)
          have hstep' : task.Step s' (nextState s' { pass with text := pass.text.crlf } _) :=
            .pass hfixable' happlied' haccepted' hsame'
              (Rule.verdictsOn_eq_ok_iff.2 ⟨mt crlf_eq_nil_iff.1 hpassNe, rfl⟩)
          rw [run_step hstep, run_step hstep']
          exact ih hpassFree (Rule.lint_eq_ok_iff.2 ⟨hpassNe, rfl⟩)
            (hread.mirrors_nextState hmirrors hpassFree)

end FixTask

/-! ## A reader that ignores carriage returns -/

theorem Text.letters_crlf (t : Text) : t.crlf.letters = t.letters := by
  induction t with
  | nil => rfl
  | cons c t ih =>
    by_cases hc : c = '\n'
    · subst hc
      simpa [letters] using ih
    · rw [crlf_cons_of_ne hc]
      simp only [letters, List.filter_cons] at ih ⊢
      rw [ih]

/-- The letters of the second part of a text move with it. -/
theorem Text.marks_crlf (s t : Text) :
    marks (byteLength s.crlf) t.crlf = (marks (byteLength s) t).map (s ++ t).crlfOffset := by
  induction t generalizing s with
  | nil => rfl
  | cons c t ih =>
    have hnext := ih (s ++ [c])
    rw [List.append_assoc, List.singleton_append, crlf_append, byteLength_append,
      byteLength_append, byteLength_cons, byteLength_nil, Nat.add_zero] at hnext
    by_cases hc : c = '\n'
    · subst hc
      simpa [marks, Nat.add_assoc] using hnext
    · have hsize : byteLength (Text.crlf [c]) = c.utf8Size := by simp [crlf_cons_of_ne hc]
      rw [hsize] at hnext
      rw [crlf_cons_of_ne hc, marks, marks, hnext]
      split
      · rfl
      · have hstart := crlfOffset_byteLength s (c :: t)
        have hstop := crlfOffset_byteLength (s ++ [c]) t
        rw [List.append_assoc, List.singleton_append, crlf_append, byteLength_append,
          byteLength_append, hsize, byteLength_cons, byteLength_nil, Nat.add_zero] at hstop
        rw [List.map_cons, List.map_cons, hstart, hstop]

theorem Nested.ignoresReturns : task.IgnoresReturns := by
  intro text _
  exact Reader.ofLetters_eq_shift letters tree .typeScript (letters_crlf text)
    (marks_crlf [] text) (crlfOffset_zero text)

/-! ## Fixing -/

namespace FixTask

variable {task : FixTask}

/-- A source without carriage returns and the source with one before each line feed are complained
    about line for line in the same way, and fixing them takes the same passes and ends in the same
    text but for the carriage returns. -/
theorem fix_crlf (hread : task.IgnoresReturns)
    (horder : ∀ text, ∀ m ∈ (task.read task.dialect text).members text, m.InOrder)
    {source : Text} (hfree : '\r' ∉ source) :
    (source = [] → task.fix source = .error .emptySource ∧
      task.fix source.crlf = .error .emptySource) ∧
    (source ≠ [] →
      (∃ outcome outcome', task.fix source = .ok outcome ∧ task.fix source.crlf = .ok outcome' ∧
        outcome'.text = outcome.text.crlf ∧ outcome'.passes = outcome.passes ∧
        outcome'.applied = outcome.applied ∧
        outcome'.remaining = outcome.remaining.map (Diagnostic.crlf outcome.text)) ∧
      ∃ diagnostics diagnostics',
        task.rule.lint task.read task.dialect source = .ok diagnostics ∧
        task.rule.lint task.read task.dialect source.crlf = .ok diagnostics' ∧
        List.Forall₂ (fun d d' => d'.start.line = d.start.line ∧
          d'.start.character = d.start.character ∧ d'.message = d.message ∧
          d'.severity = d.severity ∧ d'.isFixable = d.isFixable) diagnostics diagnostics') := by
  constructor
  · rintro rfl
    exact ⟨rfl, rfl⟩
  · intro hne
    have hne' : source.crlf ≠ [] := mt crlf_eq_nil_iff.1 hne
    have hcheck := hread.check_crlf hfree
    refine ⟨?_, _, _, Rule.lint_eq_ok_iff.2 ⟨hne, rfl⟩, Rule.lint_eq_ok_iff.2 ⟨hne', rfl⟩, ?_⟩
    · have hchecked : task.rule.verdictsOn task.read task.dialect source = .ok _ :=
        Rule.verdictsOn_eq_ok_iff.2 ⟨hne, rfl⟩
      have hchecked' : task.rule.verdictsOn task.read task.dialect source.crlf = .ok _ :=
        Rule.verdictsOn_eq_ok_iff.2 ⟨hne', rfl⟩
      rw [fix_eq_run hchecked, fix_eq_run hchecked']
      have hmirrors : (startState source _).Mirrors (startState source.crlf _) :=
        ⟨rfl, rfl, rfl, hcheck⟩
      obtain ⟨outcome, outcome', hrun, hrun', hend⟩ := hread.exists_run horder hfree
        (Rule.lint_eq_ok_iff.2 ⟨hne, rfl⟩) hmirrors maxFixPasses
      exact ⟨outcome, outcome', hrun, hrun', hend.text_eq, hend.passes_eq, hend.applied_eq,
        hend.remaining_eq⟩
    · rw [hcheck, List.forall₂_map_right_iff, List.forall₂_same]
      intro d _
      exact ⟨rfl, rfl, rfl, rfl, d.isFixable_crlf source⟩

/-- The nested classes are fixed in the same way whatever ends the lines. -/
theorem fix_nested_crlf :
    '\r' ∉ Nested.source ∧ Nested.task.IgnoresReturns ∧
      ∃ outcome outcome', Nested.task.fix Nested.source = .ok outcome ∧
        Nested.task.fix Nested.source.crlf = .ok outcome' ∧
        outcome'.text = outcome.text.crlf ∧ outcome'.passes = outcome.passes ∧
        outcome'.applied = outcome.applied := by
  have hfree : '\r' ∉ Nested.source := by decide
  obtain ⟨-, hfix⟩ := fix_crlf Nested.ignoresReturns
    (fun text _ hm => .of_wellFormed (Nested.wellFormed_read text) hm) hfree
  obtain ⟨⟨outcome, outcome', hrun, hrun', htext, hpasses, happlied, -⟩, -⟩ := hfix (by decide)
  exact ⟨hfree, Nested.ignoresReturns, outcome, outcome', hrun, hrun', htext, hpasses, happlied⟩

end FixTask

end ClassSpacing
