import ClassSpacing.Proofs.Fix.Levels
import ClassSpacing.Proofs.Fix.Run
import Mathlib.Data.List.Forall2

/-!
# Fixing reaches its end

Where at least one blank line is required and the reader is steady, a pass mends the members with the
outermost fixes and leaves all others as they stand. So fixing makes one pass for each level of the
forest of fixes, makes each fix once, and leaves nothing to complain about; and a member that was not
flagged is not flagged in any text on the way.
-/

namespace ClassSpacing

open Text

/-! ## How standings change -/

/-- How the standing of a member may change while a source is fixed. -/
inductive Standing.Leads : Standing → Standing → Prop
  | same (s : Standing) : Leads s s
  | moved (a b : Span) : Leads (flagged a) (flagged b)
  | mended (a : Span) : Leads (flagged a) settled

theorem Standing.Leads.trans {a b c : Standing} (hab : a.Leads b) (hbc : b.Leads c) : a.Leads c := by
  cases hab with
  | same => exact hbc
  | mended a => cases hbc; exact .mended a
  | moved a b =>
    cases hbc with
    | same => exact .moved a b
    | moved _ c => exact .moved a c
    | mended => exact .mended a

/-- A member that is not flagged stays so. -/
theorem Standing.Leads.span?_eq_none {a b : Standing} (h : a.Leads b) (ha : a.span? = none) :
    b.span? = none := by
  cases h with
  | same => exact ha
  | moved => simp [span?] at ha
  | mended => rfl

/-- A flagged member that is not flagged any more is settled. -/
theorem Standing.Leads.eq_settled {a b : Standing} (h : a.Leads b) (ha : a.span? ≠ none)
    (hb : b.span? = none) : b = .settled := by
  cases h with
  | same => exact absurd hb ha
  | moved => simp [span?] at hb
  | mended => rfl

theorem Standing.leads_mend (mended : List Span) (move : Nat → Nat) (s : Standing) :
    s.Leads (s.mend mended move) := by
  cases s with
  | exempt => exact .same _
  | settled => exact .same _
  | flagged span =>
    rw [mend]
    split
    · exact .mended span
    · exact .moved span _

namespace Rule

variable {rule : Rule} {source : Text} {tree : Tree}

/-! ## Complaints and fixes -/

theorem span?_standing_eq_none_iff (hspacing : rule.spacing.Separates) (m : Member) :
    (rule.examine source (.ofText source) m).standing.span? = none ↔
      (rule.examine source (.ofText source) m).diagnostic? = none := by
  rw [Verdict.span?_standing]
  cases h : (rule.examine source (.ofText source) m).diagnostic? with
  | none => simp
  | some d =>
    obtain ⟨f, hf⟩ := Option.isSome_iff_exists.1 (isSome_fix?_of_diagnostic? hspacing.judge_ne h)
    simp [hf]

theorem length_check (hspacing : rule.spacing.Separates) (source : Text) (tree : Tree) :
    (rule.check source tree).length = (rule.spans source tree).length := by
  rw [← map_span_check, List.length_map]
  refine (List.filterMap_length_eq_length.2 fun d hd => ?_).symm
  obtain ⟨m, -, -, hdiagnostic⟩ := rule.mem_check.1 hd
  exact isSome_fix?_of_diagnostic? hspacing.judge_ne hdiagnostic

/-- The member has the required number of blank lines above its anchor. -/
def Spaces (rule : Rule) (source : Text) (m : Member) : Prop :=
  ∃ c : Cut source, c.offset = m.anchor source (.ofText source) ∧
    rule.spacing.Admits (blankRun c.above)

theorem spaces_of_settled {m : Member}
    (h : (rule.examine source (.ofText source) m).standing = .settled) : rule.Spaces source m := by
  cases hverdict : rule.examine source (.ofText source) m with
  | measured line outcome d? =>
    obtain ⟨c, body, hchecked⟩ := rule.exists_isChecked_of_measured hverdict
    have hexamine := rule.examine_of_isChecked hchecked
    rw [hverdict, Verdict.standing] at h
    rw [hverdict] at hexamine
    obtain ⟨-, houtcome, -⟩ := Verdict.measured.inj hexamine
    refine ⟨c, hchecked.anchor_eq.symm, Spacing.judge_eq_satisfied_iff.1 ?_⟩
    rw [← houtcome]
    split at h
    · simp at h
    · split at h
      · rename_i hsatisfied
        simpa [Outcome.isSatisfied] using hsatisfied
      · simp at h
  | _ => simp [hverdict, Verdict.standing] at h

end Rule

/-! ## One pass -/

namespace FixTask

variable {task : FixTask} {source : Text} {s next : FixOutcome}

/-- The spans of the fixes for a text. -/
def spans (task : FixTask) (text : Text) : List Span :=
  task.rule.spans text (task.read task.dialect text)

/-- The standings of the members of a text. -/
def standings (task : FixTask) (text : Text) : List Standing :=
  task.rule.standings text (task.read task.dialect text)

/-- A text with as many faults is accepted. -/
theorem validateChange_shift {text target : Text} {move : Nat → Nat}
    (h : task.read task.dialect target = (task.read task.dialect text).shift move) :
    task.read.validateChange task.dialect text target = .ok () := by
  simp only [Reader.validateChange, h, Tree.length_faults_shift, Nat.le_refl, if_true]

/-- An accepted pass mends some members and leaves all others as they stand. -/
theorem Step.exists_mended (hsteady : task.read.IsSteady task.dialect s.text)
    (hspacing : task.rule.spacing.Separates)
    (hlint : task.rule.lint task.read task.dialect s.text = .ok s.remaining)
    (h : task.Step s next) :
    ∃ mended move, task.rule.Mended task.read task.dialect s.text next.text mended move := by
  obtain ⟨-, happlied, -, -, -⟩ := h
  obtain ⟨pass, mended, move, hpass, hmended, -⟩ := Rule.exists_pass hsteady hspacing task.file
  rw [(Rule.lint_eq_ok_iff.1 hlint).2, hpass] at happlied
  obtain rfl := Except.ok.inj happlied
  exact ⟨mended, move, hmended⟩

/-- Every state that fixing goes through has a text that comes from the source by respacing, and the
    members stand as before or are mended. -/
theorem Reaches.respaced (h : task.Reaches source s)
    (hsteady : task.read.IsSteady task.dialect source) (hspacing : task.rule.spacing.Separates) :
    task.read.Respaced task.dialect source s.text ∧ ∃ change : Standing → Standing,
      (∀ standing : Standing, standing.Leads (change standing)) ∧
      task.standings s.text = (task.standings source).map change := by
  induction h with
  | start => exact ⟨.refl, id, .same, (List.map_id _).symm⟩
  | step reached step ih =>
    obtain ⟨hrespaced, change, hleads, hstandings⟩ := ih
    obtain ⟨mended, move, hmended⟩ :=
      step.exists_mended (hsteady.of_respaced hrespaced) hspacing reached.lint_eq
    refine ⟨hrespaced.trans hmended.respaced, Standing.mend mended move ∘ change, ?_, ?_⟩
    · intro standing
      exact (hleads standing).trans (Standing.leads_mend mended move _)
    · rw [standings, hmended.standings_eq, ← standings, hstandings, List.map_map]

/-- As long as a member is flagged there is a pass, and it takes the outermost level of fixes away. -/
theorem exists_step (hsteady : task.read.IsSteady task.dialect s.text)
    (hspacing : task.rule.spacing.Separates)
    (hlint : task.rule.lint task.read task.dialect s.text = .ok s.remaining)
    (hflagged : task.spans s.text ≠ []) :
    ∃ next, task.Step s next ∧ next.passes = s.passes + 1 ∧
      next.applied + (task.spans next.text).length = s.applied + (task.spans s.text).length ∧
      Span.height (task.spans s.text) = Span.height (task.spans next.text) + 1 := by
  obtain ⟨hne, hremaining⟩ := Rule.lint_eq_ok_iff.1 hlint
  obtain ⟨pass, mended, move, hpass, hmended, happlied, hperm, hheight⟩ :=
    Rule.exists_pass hsteady hspacing task.file
  have hspans : task.spans pass.text =
      ((task.spans s.text).filter fun t => t ∉ mended).map (Span.map move) := hmended.spans_eq
  have hwell := hsteady.wellFormed hmended.respaced
  have hlaminar : (task.spans s.text).Pairwise Span.IsLaminar :=
    Rule.pairwise_isLaminar (hsteady.wellFormed .refl)
  have hlaminar' : (task.spans pass.text).Pairwise Span.IsLaminar := Rule.pairwise_isLaminar hwell
  have hpos : ∀ t ∈ task.spans pass.text, t.start < t.stop :=
    fun t ht => Rule.start_lt_stop_of_mem_spans hwell ht
  -- What is left are the spans that were not taken. They are moved, but nested as before.
  have hlevel : Span.height (task.spans s.text) = Span.height (task.spans pass.text) + 1 := by
    rw [hspans] at hlaminar' hpos ⊢
    rw [Span.height_map_of_isLaminar hmended.monotone (hlaminar.sublist List.filter_sublist)
      hlaminar' hpos]
    exact hheight hflagged
  have hlength := hperm.length_eq
  rw [List.length_append] at hlength
  have hfixable : s.remaining.any (·.isFixable) = true := by
    obtain ⟨span, hspan⟩ := List.exists_mem_of_ne_nil _ hflagged
    rw [spans, ← Rule.map_span_check, ← hremaining] at hspan
    obtain ⟨f, hf, -⟩ := List.mem_map.1 hspan
    obtain ⟨d, hd, hfix⟩ := List.mem_filterMap.1 hf
    exact List.any_eq_true.2 ⟨d, hd, by simp [Diagnostic.isFixable, hfix]⟩
  rw [← hremaining] at hpass
  refine ⟨_, .pass hfixable hpass (validateChange_shift hmended.tree_eq) ?_
    (Rule.verdictsOn_eq_ok_iff.2 ⟨hmended.ne_nil hne, rfl⟩), rfl, ?_, hlevel⟩
  · -- A text with one level less is another one.
    intro heq
    rw [heq] at hlevel
    omega
  · have hlength' := congrArg List.length hspans
    rw [List.length_map] at hlength'
    simp only [nextState, spans] at hlength hlength' ⊢
    omega

/-! ## All passes -/

/-- Nothing is left to complain about where no member is flagged. -/
theorem remaining_eq_nil (hspacing : task.rule.spacing.Separates) (hreaches : task.Reaches source s)
    (h : task.spans s.text = []) : s.remaining = [] := by
  rw [(Rule.lint_eq_ok_iff.1 hreaches.lint_eq).2]
  refine List.eq_nil_of_length_eq_zero ?_
  rw [Rule.length_check hspacing, ← spans, h]
  rfl

/-- Fixing goes on, one level of fixes after the other, until no member is flagged. -/
theorem exists_run (hsteady : task.read.IsSteady task.dialect source)
    (hspacing : task.rule.spacing.Separates) {budget : Nat} (hreaches : task.Reaches source s)
    (hbudget : Span.height (task.spans s.text) ≤ budget) :
    ∃ outcome, task.run budget s = .ok outcome ∧ task.Reaches source outcome ∧
      outcome.passes = s.passes + Span.height (task.spans s.text) ∧
      outcome.applied = s.applied + (task.spans s.text).length ∧ outcome.remaining = [] := by
  induction budget generalizing s with
  | zero =>
    have hnil := Span.height_eq_zero_iff.1 (Nat.le_zero.1 hbudget)
    exact ⟨s, rfl, hreaches, by simp [hnil, Span.height], by simp [hnil],
      remaining_eq_nil hspacing hreaches hnil⟩
  | succ budget ih =>
    by_cases hnil : task.spans s.text = []
    · have hremaining := remaining_eq_nil hspacing hreaches hnil
      exact ⟨s, run_clean (by simp [hremaining]) _, hreaches, by simp [hnil, Span.height],
        by simp [hnil], hremaining⟩
    · obtain ⟨hrespaced, -⟩ := hreaches.respaced hsteady hspacing
      obtain ⟨next, hstep, hpasses, happlied, hlevel⟩ :=
        exists_step (hsteady.of_respaced hrespaced) hspacing hreaches.lint_eq hnil
      obtain ⟨outcome, hrun, hlast, hpasses', happlied', hremaining⟩ :=
        ih (hreaches.step hstep) (by omega)
      exact ⟨outcome, by rw [run_step hstep, hrun], hlast, by omega, by omega, hremaining⟩

/-- The members of a text that fixing goes through, beside those of the source. -/
theorem Reaches.forall₂_leads (h : task.Reaches source s)
    (hsteady : task.read.IsSteady task.dialect source) (hspacing : task.rule.spacing.Separates) :
    List.Forall₂ (fun m m' => (task.rule.examine source (.ofText source) m).standing.Leads
        (task.rule.examine s.text (.ofText s.text) m').standing)
      (((task.read task.dialect source).members source).filter (·.container == .classBody))
      (((task.read task.dialect s.text).members s.text).filter (·.container == .classBody)) := by
  obtain ⟨-, change, hleads, hstandings⟩ := h.respaced hsteady hspacing
  have hall : List.Forall₂ Standing.Leads (task.standings source) (task.standings s.text) := by
    rw [hstandings, List.forall₂_map_right_iff, List.forall₂_same]
    exact fun standing _ => hleads standing
  simpa only [standings, Rule.standings, Rule.verdicts, List.map_map, List.forall₂_map_left_iff,
    List.forall₂_map_right_iff, Function.comp_apply] using hall

/-- Where members have to be separated by a blank line and the reader is steady, fixing a source takes
    one pass for each level of the forest of its fixes, if so many are allowed. Each complaint is
    mended once and none remains: a member that was flagged ends up with the required number of blank
    lines above its anchor, and one that was not is not flagged in any text on the way. -/
theorem fix_converges {diagnostics : List Diagnostic} (hspacing : task.rule.spacing.Separates)
    (hsteady : task.read.IsSteady task.dialect source)
    (hlint : task.rule.lint task.read task.dialect source = .ok diagnostics)
    (hheight : Fix.height (diagnostics.filterMap (·.fix?)) ≤ maxFixPasses) :
    ∃ outcome, task.fix source = .ok outcome ∧
      outcome.passes = Fix.height (diagnostics.filterMap (·.fix?)) ∧
      outcome.applied = diagnostics.length ∧ outcome.remaining = [] ∧
      List.Forall₂ (fun v m => v.diagnostic? ≠ none → task.rule.Spaces outcome.text m)
        (task.rule.verdicts source (task.read task.dialect source))
        (((task.read task.dialect outcome.text).members outcome.text).filter
          (·.container == .classBody)) ∧
      ∀ s, task.Reaches source s →
        List.Forall₂ (fun v v' => v.diagnostic? = none → v'.diagnostic? = none)
          (task.rule.verdicts source (task.read task.dialect source))
          (task.rule.verdicts s.text (task.read task.dialect s.text)) := by
  obtain ⟨hne, rfl⟩ := Rule.lint_eq_ok_iff.1 hlint
  have hspans : Fix.height ((task.rule.check source (task.read task.dialect source)).filterMap
      (·.fix?)) = Span.height (task.spans source) := by
    rw [Fix.height, Rule.map_span_check, spans]
  have hstart : task.Reaches source
      (startState source (task.rule.verdicts source (task.read task.dialect source))) :=
    .start (Rule.verdictsOn_eq_ok_iff.2 ⟨hne, rfl⟩)
  rw [hspans] at hheight ⊢
  obtain ⟨outcome, hrun, hreaches, hpasses, happlied, hremaining⟩ :=
    exists_run hsteady hspacing hstart hheight
  refine ⟨outcome, (fix_eq_run (Rule.verdictsOn_eq_ok_iff.2 ⟨hne, rfl⟩)).trans hrun,
    by simpa [startState] using hpasses, ?_, hremaining, ?_, ?_⟩
  · rw [happlied, Rule.length_check hspacing]
    simp [startState, spans]
  · -- No member of the last text is flagged, so those that were flagged are settled.
    have hclean := (Rule.lint_eq_ok_iff.1 hreaches.lint_eq).2
    rw [hremaining, Rule.check, Rule.verdicts, List.filterMap_map, eq_comm,
      List.filterMap_eq_nil_iff] at hclean
    have hboth := ((List.forall₂_and_left _ _).2
      ⟨hclean, (hreaches.forall₂_leads hsteady hspacing).flip⟩).flip
    rw [Rule.verdicts, List.forall₂_map_left_iff]
    refine hboth.imp fun m m' hpair hflagged => Rule.spaces_of_settled ?_
    have hspan := (Rule.span?_standing_eq_none_iff hspacing m').2 hpair.1
    exact hpair.2.eq_settled (mt (Rule.span?_standing_eq_none_iff hspacing m).1 hflagged) hspan
  · intro s hs
    rw [Rule.verdicts, Rule.verdicts, List.forall₂_map_left_iff, List.forall₂_map_right_iff]
    refine (hs.forall₂_leads hsteady hspacing).imp fun m m' hleads hnone => ?_
    rw [← Rule.span?_standing_eq_none_iff hspacing] at hnone ⊢
    exact hleads.span?_eq_none hnone

set_option maxRecDepth 100000 in
/-- The members of the inner class are mended in a second pass. -/
theorem fix_nested_converges :
    Nested.task.rule.spacing.Separates ∧
      Nested.task.read.IsSteady Nested.task.dialect Nested.source ∧
      ∃ outcome, Nested.task.fix Nested.source = .ok outcome ∧ outcome.passes = 2 ∧
        outcome.applied = 3 ∧ outcome.remaining = [] := by
  have hspacing : Nested.task.rule.spacing.Separates := trivial
  have hsteady : Nested.task.read.IsSteady Nested.task.dialect Nested.source :=
    Reader.isSteady_ofLetters Nested.fits_tree _ _
  have hheight : Fix.height ((Nested.task.rule.check Nested.source
      (Nested.task.read Nested.task.dialect Nested.source)).filterMap (·.fix?)) = 2 := by
    decide +kernel
  have hlength : (Nested.task.rule.check Nested.source
      (Nested.task.read Nested.task.dialect Nested.source)).length = 3 := by
    decide +kernel
  obtain ⟨outcome, hfix, hpasses, happlied, hremaining, -, -⟩ := fix_converges hspacing hsteady
    (Rule.lint_eq_ok_iff.2 ⟨by decide, rfl⟩) (by rw [hheight]; decide)
  exact ⟨hspacing, hsteady, outcome, hfix, hpasses.trans hheight, happlied.trans hlength, hremaining⟩

end FixTask

end ClassSpacing
