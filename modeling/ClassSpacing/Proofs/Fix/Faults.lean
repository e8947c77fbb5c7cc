import ClassSpacing.Proofs.Fix.Removal
import ClassSpacing.Proofs.Fix.Run
import ClassSpacing.Proofs.Tree.Faults
import Mathlib.Algebra.GroupWithZero.Nat

/-!
# Fixing and faults

Each accepted pass leaves at most as many faults as the text before it had, so a whole run does too,
whatever passes it is made of. A pass that would bring more is given up, and fixing ends with the
text that it was to be made on: `FixTask.Accepts` lists the passes up to there, and the counts of
the result are counts of that list.
-/

namespace ClassSpacing

namespace FixTask

/-- The passes that lead from one text to another, each of them accepted. -/
inductive Accepts (task : FixTask) (source : Text) : List FixPass → Text → Prop
  | none : Accepts task source [] source
  | pass {passes : List FixPass} {text : Text} {diagnostics : List Diagnostic} {pass : FixPass}
      (before : Accepts task source passes text)
      (checked : task.rule.lint task.read task.dialect text = .ok diagnostics)
      (applied : applyFixes task.file text diagnostics = .ok pass)
      (accepted : task.read.validateChange task.dialect text pass.text = .ok ()) :
      Accepts task source (passes ++ [pass]) pass.text

variable {task : FixTask} {source text : Text} {passes : List FixPass}

/-- Accepted passes bring no faults. -/
theorem Accepts.length_faults_le (h : task.Accepts source passes text) :
    (task.read task.dialect text).faults.length ≤
      (task.read task.dialect source).faults.length := by
  induction h with
  | none => exact Nat.le_refl _
  | pass _ _ _ accepted ih => exact (Reader.validateChange_eq_ok_iff.1 accepted).trans ih

/-! ## The passes behind a state -/

/-- A state counts the passes that lead to its text. -/
structure Counts (task : FixTask) (source : Text) (passes : List FixPass) (s : FixOutcome) :
    Prop where
  accepts : task.Accepts source passes s.text
  passes_eq : s.passes = passes.length
  applied_eq : s.applied = (passes.map (·.applied)).sum

theorem Counts.pass {s next : FixOutcome} {pass : FixPass} (h : task.Counts source passes s)
    (hlint : task.rule.lint task.read task.dialect s.text = .ok s.remaining)
    (happlied : applyFixes task.file s.text s.remaining = .ok pass)
    (haccepted : task.read.validateChange task.dialect s.text pass.text = .ok ())
    (htext : next.text = pass.text) (hpasses : next.passes = s.passes + 1)
    (hcount : next.applied = s.applied + pass.applied) :
    task.Counts source (passes ++ [pass]) next where
  accepts := htext ▸ h.accepts.pass hlint happlied haccepted
  passes_eq := by simp [hpasses, h.passes_eq]
  applied_eq := by simp [hcount, h.applied_eq]

theorem Reaches.exists_counts {s : FixOutcome} (h : task.Reaches source s) :
    ∃ passes, task.Counts source passes s := by
  induction h with
  | start checked => exact ⟨[], .none, rfl, rfl⟩
  | step reached step ih =>
    obtain ⟨passes, hcounts⟩ := ih
    obtain ⟨-, happlied, haccepted, -, -⟩ := step
    exact ⟨_, hcounts.pass reached.lint_eq happlied haccepted rfl rfl rfl⟩

/-- However fixing ends, the result counts accepted passes only. -/
theorem Ends.exists_counts {s outcome : FixOutcome} (hends : task.Ends s outcome)
    (hreaches : task.Reaches source s) : ∃ passes, task.Counts source passes outcome := by
  obtain ⟨passes, hcounts⟩ := hreaches.exists_counts
  cases hends with
  | exhausted => exact ⟨passes, hcounts⟩
  | clean => exact ⟨passes, hcounts⟩
  | rejected => exact ⟨passes, hcounts.accepts, hcounts.passes_eq, hcounts.applied_eq⟩
  | unchanged _ applied accepted h =>
    exact ⟨_, hcounts.pass hreaches.lint_eq applied accepted h.symm rfl rfl⟩

/-! ## The state behind some passes -/

/-- Fixing goes through each of its states. -/
theorem Reaches.fix_eq_run {s : FixOutcome} (h : task.Reaches source s)
    (hpasses : s.passes ≤ maxFixPasses) :
    task.fix source = task.run (maxFixPasses - s.passes) s := by
  induction h with
  | start checked => exact FixTask.fix_eq_run checked
  | @step s next _ step ih =>
    have hnext : next.passes = s.passes + 1 := by
      cases step
      rfl
    rw [ih (by omega), show maxFixPasses - s.passes = maxFixPasses - next.passes + 1 by omega,
      run_step step]

/-- Where a pass changes the text, something can be fixed. -/
theorem any_isFixable_of_ne {file : Path} {diagnostics : List Diagnostic} {pass : FixPass}
    (happlied : applyFixes file text diagnostics = .ok pass) (hne : pass.text ≠ text) :
    diagnostics.any (·.isFixable) = true := by
  by_contra hfixable
  have hnone : diagnostics.filterMap (·.fix?) = [] := by
    rw [List.filterMap_eq_nil_iff]
    intro d hd
    rw [List.any_eq_true] at hfixable
    by_contra hfix
    exact hfixable ⟨d, hd, Option.isSome_iff_ne_none.2 hfix⟩
  have htext := (applyFixes_eq_ok_iff.1 happlied).1
  have hselect : Fix.select [] = [] := by simp [Fix.select, Fix.selectAfter]
  rw [hnone, hselect] at htext
  exact hne (Except.ok.inj htext).symm

/-- The text behind some accepted passes is the text of a state, unless the next pass is in vain:
    then an earlier one may have been, too, and fixing has ended there. -/
theorem Accepts.exists_reaches {diagnostics : List Diagnostic} {pass : FixPass}
    (h : task.Accepts source passes text)
    (hlint : task.rule.lint task.read task.dialect text = .ok diagnostics)
    (happlied : applyFixes task.file text diagnostics = .ok pass) (hne : pass.text ≠ text) :
    ∃ s, task.Reaches source s ∧ s.text = text ∧ s.remaining = diagnostics ∧
      s.passes = passes.length ∧ s.applied = (passes.map (·.applied)).sum := by
  induction h generalizing diagnostics pass with
  | none =>
    obtain ⟨hsource, rfl⟩ := Rule.lint_eq_ok_iff.1 hlint
    exact ⟨_, .start (Rule.verdictsOn_eq_ok_iff.2 ⟨hsource, rfl⟩), rfl, rfl, rfl, rfl⟩
  | @pass passes before found last _ checked applied accepted ih =>
    have hchanged : last.text ≠ before := by
      -- A pass in vain is the same when it is made again, so the next one would be in vain too.
      intro hsame
      rw [hsame] at hlint happlied hne
      obtain rfl := Except.ok.inj (checked.symm.trans hlint)
      obtain rfl := Except.ok.inj (applied.symm.trans happlied)
      exact hne hsame
    obtain ⟨s, hreaches, rfl, rfl, hpasses, hcount⟩ := ih checked applied hchanged
    obtain ⟨hlast, rfl⟩ := Rule.lint_eq_ok_iff.1 hlint
    have hstep : task.Step s (nextState s last _) :=
      .pass (any_isFixable_of_ne applied hchanged) applied accepted hchanged
        (Rule.verdictsOn_eq_ok_iff.2 ⟨hlast, rfl⟩)
    exact ⟨_, hreaches.step hstep, rfl, rfl, by simp [nextState, hpasses],
      by simp [nextState, hcount]⟩

/-- Where the pass behind some accepted ones is rejected, fixing ends with what is there. -/
theorem Accepts.fix_eq_of_rejected {diagnostics : List Diagnostic} {pass : FixPass}
    {cause : SourceError} (h : task.Accepts source passes text)
    (hlength : passes.length < maxFixPasses)
    (hlint : task.rule.lint task.read task.dialect text = .ok diagnostics)
    (happlied : applyFixes task.file text diagnostics = .ok pass)
    (hrejected : task.read.validateChange task.dialect text pass.text = .error cause) :
    ∃ outcome, task.fix source = .ok outcome ∧ outcome.text = text ∧
      outcome.passes = passes.length ∧ outcome.applied = (passes.map (·.applied)).sum ∧
      outcome.remaining = diagnostics := by
  have hne : pass.text ≠ text := by
    intro hsame
    rw [hsame, Reader.validateChange_self] at hrejected
    cases hrejected
  obtain ⟨s, hreaches, rfl, rfl, hpasses, hcount⟩ := h.exists_reaches hlint happlied hne
  have hbudget : maxFixPasses - s.passes = (maxFixPasses - s.passes - 1) + 1 := by omega
  refine ⟨{ s with history := .rejected cause :: s.history }, ?_, rfl, hpasses, hcount, rfl⟩
  rw [hreaches.fix_eq_run (by omega), hbudget]
  exact run_rejected (any_isFixable_of_ne happlied hne) happlied hrejected _

/-! ## All passes -/

/-- Fixing brings no faults. Its result counts the passes that were accepted and has the complaints
    about its text; and if the pass behind some accepted ones is rejected, then the result is the
    text that it was to be made on, with no other passes counted. -/
theorem fix_adds_no_faults {outcome : FixOutcome} (hfix : task.fix source = .ok outcome) :
    (task.read task.dialect outcome.text).faults.length ≤
        (task.read task.dialect source).faults.length ∧
      ((∀ text, (task.read task.dialect text).MarksFaults) →
        (task.read task.dialect outcome.text).faultCount ≤
          (task.read task.dialect source).faultCount) ∧
      task.rule.lint task.read task.dialect outcome.text = .ok outcome.remaining ∧
      (∃ passes, task.Accepts source passes outcome.text ∧ outcome.passes = passes.length ∧
        outcome.applied = (passes.map (·.applied)).sum) ∧
      ∀ passes text diagnostics pass cause,
        task.Accepts source passes text → passes.length < maxFixPasses →
        task.rule.lint task.read task.dialect text = .ok diagnostics →
        applyFixes task.file text diagnostics = .ok pass →
        task.read.validateChange task.dialect text pass.text = .error cause →
        outcome.text = text ∧ outcome.passes = passes.length ∧
          outcome.applied = (passes.map (·.applied)).sum ∧ outcome.remaining = diagnostics := by
  obtain ⟨last, hreaches, hends⟩ := exists_reaches_of_fix hfix
  obtain ⟨passes, hcounts⟩ := hends.exists_counts hreaches
  have hle := hcounts.accepts.length_faults_le
  refine ⟨hle, fun hmarks => ?_, lint_of_fix hfix,
    ⟨passes, hcounts.accepts, hcounts.passes_eq, hcounts.applied_eq⟩, ?_⟩
  · rwa [← (hmarks outcome.text).length_faults, ← (hmarks source).length_faults]
  · intro passes text diagnostics pass cause haccepts hlength hlint happlied hrejected
    obtain ⟨found, hfound, hresult⟩ :=
      haccepts.fix_eq_of_rejected hlength hlint happlied hrejected
    obtain rfl := Except.ok.inj (hfix.symm.trans hfound)
    exact hresult

end FixTask

/-! ## A second pass that is rejected -/

/-- A pass with one fix replaces the span of that fix. -/
theorem applyFixes_singleton {file : Path} {source target : Text} {diagnostics : List Diagnostic}
    {f : Fix} (before found after : Text) (hfixes : diagnostics.filterMap (·.fix?) = [f])
    (hsource : source = before ++ (found ++ after)) (hoffset : f.offset = before.byteLength)
    (hlength : f.length = found.byteLength)
    (htarget : target = before ++ (f.replacement ++ after)) :
    applyFixes file source diagnostics = .ok ⟨target, 1, 0⟩ := by
  have hselect : Fix.select [f] = [f] := by simp [Fix.select, Fix.selectAfter]
  refine applyFixes_eq_ok_iff.2 ?_
  rw [hfixes, hselect, htarget]
  exact ⟨Fix.applyFrom_cons hsource hoffset hlength (by rw [Fix.applyFrom, ← hsource]), rfl, rfl⟩

namespace Noted

/-- The source without blank lines. -/
def joined : Text :=
  "class A \x7b\n  a() \x7b\x7d\n  // note\n  b() \x7b\x7d\n\x7d\n".toList

/-- Fixing the members around the comment, with a reader that finds a fault where no blank line is
    left. -/
def strictTask : FixTask where
  rule := rule
  read dialect text :=
    if text = joined then { kind := .error, span := ⟨0, 0⟩, hasFault := true }
    else read dialect text
  dialect := .typeScript
  file := ⟨"a.ts"⟩

theorem marksFaults_strictTask (text : Text) :
    (strictTask.read strictTask.dialect text).MarksFaults := by
  have htree : tree.MarksFaults := by
    unfold Tree.MarksFaults
    decide
  simp only [strictTask, read, Reader.ofLetters]
  split
  · simp [Tree.MarksFaults, Tree.nodes, Tree.nodesOf, Tree.isFault]
  · split
    · exact htree.shift _
    · simp [Tree.MarksFaults, Tree.nodes, Tree.nodesOf, Tree.isFault]

theorem lint_strictTask (text : Text) (hne : text ≠ []) :
    strictTask.rule.lint strictTask.read strictTask.dialect text =
      .ok (strictTask.rule.check text (strictTask.read strictTask.dialect text)) :=
  Rule.lint_eq_ok_iff.2 ⟨hne, rfl⟩

/-- The first pass takes away the blank line below the comment. -/
theorem applyFixes_source :
    applyFixes strictTask.file source
      (strictTask.rule.check source (strictTask.read strictTask.dialect source)) =
        .ok ⟨fixed, 1, 0⟩ :=
  applyFixes_singleton (f := fix) (source.take 30) ((source.drop 30).take 9) (source.drop 39)
    (by decide +kernel) (by decide) (by decide) (by decide) (by decide)

/-- The second pass is to take away the blank line above it. -/
theorem applyFixes_fixed :
    applyFixes strictTask.file fixed
      (strictTask.rule.check fixed (strictTask.read strictTask.dialect fixed)) =
        .ok ⟨joined, 1, 0⟩ :=
  applyFixes_singleton (f := ⟨19, 19, (fixed.drop 20).take 18⟩) (fixed.take 19)
    ((fixed.drop 19).take 19) (fixed.drop 38) (by decide +kernel) (by decide) (by decide)
    (by decide) (by decide)

end Noted

open Noted in
/-- The first pass is accepted and the second one is not, so that fixing ends with the text between
    them. -/
theorem FixTask.fix_noted_adds_no_faults :
    ∃ outcome, strictTask.fix source = .ok outcome ∧ outcome.text = fixed ∧
      outcome.passes = 1 ∧ outcome.applied = 1 ∧
      strictTask.rule.lint strictTask.read strictTask.dialect fixed = .ok outcome.remaining ∧
      (strictTask.read strictTask.dialect fixed).faults.length ≤
        (strictTask.read strictTask.dialect source).faults.length ∧
      (∀ text, (strictTask.read strictTask.dialect text).MarksFaults) ∧
      (strictTask.read strictTask.dialect fixed).faultCount ≤
        (strictTask.read strictTask.dialect source).faultCount := by
  have haccepts : strictTask.Accepts source [⟨fixed, 1, 0⟩] fixed :=
    .pass .none (lint_strictTask source (by decide)) applyFixes_source
      (Reader.validateChange_eq_ok_iff.2 (by decide +kernel))
  have hrejected : strictTask.read.validateChange strictTask.dialect fixed joined =
      .error (.fault ⟨0, 0⟩) := by decide +kernel
  have hlint := lint_strictTask fixed (by decide)
  obtain ⟨outcome, hfix, -⟩ :=
    haccepts.fix_eq_of_rejected (by decide) hlint applyFixes_fixed hrejected
  obtain ⟨hfaults, hcount, hremaining, -, hends⟩ := fix_adds_no_faults hfix
  obtain ⟨htext, hpasses, happlied, -⟩ :=
    hends _ _ _ _ _ haccepts (by decide) hlint applyFixes_fixed hrejected
  rw [htext] at hfaults hcount hremaining
  exact ⟨outcome, hfix, htext, hpasses, happlied, hremaining, hfaults, marksFaults_strictTask,
    hcount marksFaults_strictTask⟩

end ClassSpacing
