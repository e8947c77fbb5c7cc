import ClassSpacing.Proofs.Fix.Pass

/-!
# The passes over a source

Fixing a source goes from state to state, one accepted pass after the other, and ends in one of four
ways. `FixTask.Step` says all that an accepted pass does, `FixTask.Ends` how fixing ends, and
`FixTask.exists_reaches_of_fix` that a result always comes about like this: what every state on the
way has in common is proved by induction on `FixTask.Reaches`.
-/

namespace ClassSpacing

theorem Rule.lint_eq_ok_iff {rule : Rule} {read : Reader} {dialect : Dialect} {source : Text}
    {diagnostics : List Diagnostic} :
    rule.lint read dialect source = .ok diagnostics ↔
      source ≠ [] ∧ diagnostics = rule.check source (read dialect source) := by
  unfold lint verdictsOn
  cases source with
  | nil => simp [bind, Except.bind]
  | cons c rest =>
    simp only [List.isEmpty_cons, check]
    constructor
    · intro h
      exact ⟨by simp, (Except.ok.inj h).symm⟩
    · rintro ⟨-, rfl⟩
      rfl

theorem Rule.verdictsOn_eq_ok_iff {rule : Rule} {read : Reader} {dialect : Dialect} {source : Text}
    {verdicts : List Verdict} :
    rule.verdictsOn read dialect source = .ok verdicts ↔
      source ≠ [] ∧ verdicts = rule.verdicts source (read dialect source) := by
  unfold verdictsOn
  cases source with
  | nil => simp
  | cons c rest => simp [eq_comm]

namespace FixTask

/-- The state that fixing starts in. -/
def startState (source : Text) (verdicts : List Verdict) : FixOutcome where
  text := source
  passes := 0
  applied := 0
  remaining := verdicts.filterMap (·.diagnostic?)
  history := [.checked verdicts]

/-- The state after an accepted pass, and after the new text was checked. -/
def nextState (s : FixOutcome) (pass : FixPass) (verdicts : List Verdict) : FixOutcome where
  text := pass.text
  passes := s.passes + 1
  applied := s.applied + pass.applied
  remaining := verdicts.filterMap (·.diagnostic?)
  history := .checked verdicts :: .passed (s.passes + 1) pass.applied pass.skipped :: s.history

variable (task : FixTask)

/-- An accepted pass that changes the text. -/
inductive Step : FixOutcome → FixOutcome → Prop
  | pass {s : FixOutcome} {pass : FixPass} {verdicts : List Verdict}
      (fixable : s.remaining.any (·.isFixable) = true)
      (applied : applyFixes task.file s.text s.remaining = .ok pass)
      (accepted : task.read.validateChange task.dialect s.text pass.text = .ok ())
      (changed : pass.text ≠ s.text)
      (checked : task.rule.verdictsOn task.read task.dialect pass.text = .ok verdicts) :
      Step s (nextState s pass verdicts)

/-- The states that fixing a source goes through. -/
inductive Reaches (source : Text) : FixOutcome → Prop
  | start {verdicts : List Verdict}
      (checked : task.rule.verdictsOn task.read task.dialect source = .ok verdicts) :
      Reaches source (startState source verdicts)
  | step {s next : FixOutcome} (reached : Reaches source s) (step : task.Step s next) :
      Reaches source next

/-- How fixing ends, from the last state it goes through. -/
inductive Ends (s : FixOutcome) : FixOutcome → Prop
  /-- No more passes are allowed. -/
  | exhausted (h : s.passes = maxFixPasses) : Ends s s
  /-- Nothing fixable is left. -/
  | clean (h : s.remaining.any (·.isFixable) = false) : Ends s s
  /-- The next pass would bring new faults. -/
  | rejected {pass : FixPass} {cause : SourceError}
      (fixable : s.remaining.any (·.isFixable) = true)
      (applied : applyFixes task.file s.text s.remaining = .ok pass)
      (h : task.read.validateChange task.dialect s.text pass.text = .error cause) :
      Ends s { s with history := .rejected cause :: s.history }
  /-- The next pass changes nothing. -/
  | unchanged {pass : FixPass} (fixable : s.remaining.any (·.isFixable) = true)
      (applied : applyFixes task.file s.text s.remaining = .ok pass)
      (accepted : task.read.validateChange task.dialect s.text pass.text = .ok ())
      (h : pass.text = s.text) :
      Ends s { s with
        passes := s.passes + 1
        applied := s.applied + pass.applied
        history := .passed (s.passes + 1) pass.applied pass.skipped :: s.history }

variable {task}

/-! ## One round of the loop -/

theorem run_clean {s : FixOutcome} (h : s.remaining.any (·.isFixable) = false) (budget : Nat) :
    task.run budget s = .ok s := by
  cases budget with
  | zero => rfl
  | succ budget => simp [run, h, pure, Except.pure]

theorem run_rejected {s : FixOutcome} {pass : FixPass} {cause : SourceError}
    (hfixable : s.remaining.any (·.isFixable) = true)
    (happlied : applyFixes task.file s.text s.remaining = .ok pass)
    (h : task.read.validateChange task.dialect s.text pass.text = .error cause) (budget : Nat) :
    task.run (budget + 1) s = .ok { s with history := .rejected cause :: s.history } := by
  simp [run, hfixable, happlied, h, bind, Except.bind, pure, Except.pure]

theorem run_unchanged {s : FixOutcome} {pass : FixPass}
    (hfixable : s.remaining.any (·.isFixable) = true)
    (happlied : applyFixes task.file s.text s.remaining = .ok pass)
    (haccepted : task.read.validateChange task.dialect s.text pass.text = .ok ())
    (h : pass.text = s.text) (budget : Nat) :
    task.run (budget + 1) s = .ok { s with
      passes := s.passes + 1
      applied := s.applied + pass.applied
      history := .passed (s.passes + 1) pass.applied pass.skipped :: s.history } := by
  rw [h] at haccepted
  simp [run, hfixable, happlied, haccepted, h, bind, Except.bind, pure, Except.pure]

/-- An accepted pass uses up one of the passes that are allowed. -/
theorem run_step {s next : FixOutcome} (h : task.Step s next) (budget : Nat) :
    task.run (budget + 1) s = task.run budget next := by
  obtain ⟨hfixable, happlied, haccepted, hchanged, hchecked⟩ := h
  simp [run, hfixable, happlied, haccepted, hchanged, hchecked, bind, Except.bind, nextState]

/-- A round of the loop ends it or makes an accepted pass. -/
theorem ends_or_step_of_run {s outcome : FixOutcome} {budget : Nat}
    (h : task.run (budget + 1) s = .ok outcome) :
    task.Ends s outcome ∨ ∃ next, task.Step s next ∧ task.run budget next = .ok outcome := by
  cases hfixable : s.remaining.any (·.isFixable) with
  | false =>
    rw [run_clean hfixable] at h
    obtain rfl := Except.ok.inj h
    exact .inl (.clean hfixable)
  | true =>
    have hrun := h
    simp only [run, hfixable, Bool.not_true, Bool.false_eq_true, if_false] at hrun
    obtain ⟨pass, happlied, hrest⟩ := Except.bind_eq_ok_iff.1 hrun
    cases hvalid : task.read.validateChange task.dialect s.text pass.text with
    | error cause =>
      rw [run_rejected hfixable happlied hvalid] at h
      obtain rfl := Except.ok.inj h
      exact .inl (.rejected hfixable happlied hvalid)
    | ok =>
      rw [hvalid] at hrest
      by_cases hsame : pass.text = s.text
      · rw [run_unchanged hfixable happlied hvalid hsame] at h
        obtain rfl := Except.ok.inj h
        exact .inl (.unchanged hfixable happlied hvalid hsame)
      · simp only [hsame, if_false] at hrest
        obtain ⟨verdicts, hchecked, -⟩ := Except.bind_eq_ok_iff.1 hrest
        have hstep : task.Step s (nextState s pass verdicts) :=
          .pass hfixable happlied hvalid hsame hchecked
        exact .inr ⟨_, hstep, by rw [← run_step hstep, h]⟩

/-! ## All rounds -/

theorem exists_reaches_of_run {source : Text} {s outcome : FixOutcome} {budget : Nat}
    (hreaches : task.Reaches source s) (hbudget : s.passes + budget = maxFixPasses)
    (h : task.run budget s = .ok outcome) :
    ∃ last, task.Reaches source last ∧ task.Ends last outcome := by
  induction budget generalizing s with
  | zero =>
    obtain rfl : s = outcome := Except.ok.inj h
    exact ⟨s, hreaches, .exhausted (by omega)⟩
  | succ budget ih =>
    rcases ends_or_step_of_run h with hends | ⟨next, hstep, hnext⟩
    · exact ⟨s, hreaches, hends⟩
    · have hpasses : next.passes = s.passes + 1 := by cases hstep; rfl
      exact ih (hreaches.step hstep) (by omega) hnext

/-- A result of fixing comes about by accepted passes, and then fixing ends. -/
theorem exists_reaches_of_fix {source : Text} {outcome : FixOutcome}
    (h : task.fix source = .ok outcome) :
    ∃ last, task.Reaches source last ∧ task.Ends last outcome := by
  obtain ⟨verdicts, hchecked, hrun⟩ := Except.bind_eq_ok_iff.1 h
  exact exists_reaches_of_run (.start hchecked) (by simp [startState]) hrun

theorem fix_eq_run {source : Text} {verdicts : List Verdict}
    (h : task.rule.verdictsOn task.read task.dialect source = .ok verdicts) :
    task.fix source = task.run maxFixPasses (startState source verdicts) := by
  simp [fix, h, bind, Except.bind, startState]

/-- The complaints of a state are those about its text. -/
theorem Reaches.lint_eq {source : Text} {s : FixOutcome} (h : task.Reaches source s) :
    task.rule.lint task.read task.dialect s.text = .ok s.remaining := by
  have hlint : ∀ {text : Text} {verdicts : List Verdict},
      task.rule.verdictsOn task.read task.dialect text = .ok verdicts →
      task.rule.lint task.read task.dialect text = .ok (verdicts.filterMap (·.diagnostic?)) := by
    intro text verdicts hchecked
    simp [Rule.lint, hchecked, bind, Except.bind, pure, Except.pure]
  cases h with
  | start checked => exact hlint checked
  | step _ step =>
    obtain ⟨-, -, -, -, hchecked⟩ := step
    exact hlint hchecked

/-- The complaints of a result are those about its text. -/
theorem lint_of_fix {source : Text} {outcome : FixOutcome} (h : task.fix source = .ok outcome) :
    task.rule.lint task.read task.dialect outcome.text = .ok outcome.remaining := by
  obtain ⟨last, hreaches, hends⟩ := exists_reaches_of_fix h
  cases hends <;> exact hreaches.lint_eq

end FixTask

end ClassSpacing
