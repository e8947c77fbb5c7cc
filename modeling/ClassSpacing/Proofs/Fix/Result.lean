import ClassSpacing.Proofs.Fix.Run
import ClassSpacing.Proofs.Rule.Anchor

/-!
# Fixing gives a result

The fixes of a pass could only get in each other's way if one of them were empty. This is excluded by
the order of the nodes around a member: its declaration is not empty, and its decorators and comments
do not start after it. So the fixes that a pass selects stand one behind the other and can all be
made, something is left of the text, and fixing a source that is not empty always gives a result.
-/

namespace ClassSpacing

open Text

/-! ## Members in order -/

/-- The nodes of a member are as siblings of a parse tree are: its declaration is not empty, and
    neither its head nor anything above the head starts after the declaration. -/
structure Member.InOrder (m : Member) : Prop where
  node_lt : m.node.span.start < m.node.span.stop
  head_le : m.head.span.start ≤ m.node.span.start
  above_le : ∀ t ∈ m.aboveHead, t.span.start ≤ m.node.span.start

/-- The members of a well-formed tree are in order. -/
theorem Member.InOrder.of_wellFormed {source : Text} {tree : Tree} (htree : tree.WellFormed source)
    {m : Member} (hm : m ∈ tree.members source) : m.InOrder := by
  obtain ⟨hmarked, -, hnodes⟩ := htree.of_mem_members hm
  rw [List.forall_mem_cons, List.forall_mem_cons] at hnodes
  obtain ⟨hnode, hhead, habove⟩ := hnodes
  exact ⟨hnode.1.start_lt_stop hmarked, hhead.2, fun t ht => (habove t ht).2⟩

theorem Member.InOrder.anchor_lt_stop {m : Member} (h : m.InOrder) (source : Text)
    (table : LineTable) : m.anchor source table < m.stop := by
  have hnode := h.node_lt
  rcases m.anchor_eq_start source table with heq | ⟨t, ht, -, heq⟩
  · rw [heq]
    exact Nat.lt_of_le_of_lt h.head_le hnode
  · rw [heq]
    exact Nat.lt_of_le_of_lt (h.above_le t ht) hnode

/-! ## The fixes of a pass -/

namespace Rule

variable {rule : Rule} {source : Text}

/-- From its anchor on, a flagged member says something. -/
theorem Flags.text_ne_nil {m : Member} {d : Diagnostic} {c : Cut source} {text : Text}
    (h : rule.Flags m d c text) (hm : m.InOrder) : text ≠ [] := by
  rintro rfl
  obtain ⟨body, hchecked⟩ := h.isChecked
  have hlt := hm.anchor_lt_stop source (.ofText source)
  rw [hchecked.anchor_eq, h.stop_eq, byteLength_nil] at hlt
  omega

/-- The fixes of the complaints about a source are fixes of the rule. They cover and leave behind the
    text of a member, which is not empty. -/
theorem proposes_of_mem_check {tree : Tree} (horder : ∀ m ∈ tree.members source, m.InOrder)
    {f : Fix} (hf : f ∈ (rule.check source tree).filterMap (·.fix?)) :
    (∃ c : Cut source, rule.Proposes c f) ∧ 0 < f.length ∧ f.replacement ≠ [] := by
  obtain ⟨d, hd, hfix⟩ := List.mem_filterMap.1 hf
  obtain ⟨m, hm, -, hdiagnostic⟩ := rule.mem_check.1 hd
  obtain ⟨c, text, hflags⟩ := rule.exists_flags_of_diagnostic? hdiagnostic
  have hne := hflags.text_ne_nil (horder m hm)
  obtain ⟨top, gap, new, hexchange, -⟩ := (hflags.mends f hfix).exists_exchanges
  refine ⟨⟨c, hflags.proposes hfix⟩, ?_, by simp [hexchange.replacement_eq, hne]⟩
  have hpos := byteLength_pos hne
  rw [hexchange.length_eq, byteLength_append, byteLength_append]
  omega

/-- A fix of the rule is about a part of the text. -/
theorem Proposes.isPlaced {c : Cut source} {f : Fix} (h : rule.Proposes c f) :
    f.IsPlaced source := by
  obtain ⟨text, after, hrest, hmends⟩ := h
  obtain ⟨top, gap, new, hexchange, -⟩ := hmends.exists_exchanges
  exact ⟨top, gap ++ (c.indent ++ text), after, hexchange.source_eq hrest, hexchange.offset_eq,
    hexchange.length_eq⟩

/-- The fixes that a pass selects stand one behind the other. -/
theorem pairwise_select_check {tree : Tree} (horder : ∀ m ∈ tree.members source, m.InOrder) :
    (Fix.select ((rule.check source tree).filterMap (·.fix?))).Pairwise (·.stop ≤ ·.offset) :=
  Fix.pairwise_select fun _ hf => (proposes_of_mem_check horder hf).2.1

/-- A pass can be made, and something is left of the text. -/
theorem exists_applyFixes (file : Path) {tree : Tree}
    (horder : ∀ m ∈ tree.members source, m.InOrder) (hne : source ≠ []) :
    ∃ pass, applyFixes file source (rule.check source tree) = .ok pass ∧ pass.text ≠ [] := by
  have hfixes : ∀ f ∈ Fix.select ((rule.check source tree).filterMap (·.fix?)),
      f.IsPlaced source ∧ f.replacement ≠ [] := by
    intro f hf
    obtain ⟨⟨c, hproposes⟩, -, hreplacement⟩ :=
      proposes_of_mem_check horder (Fix.mem_of_mem_select hf)
    exact ⟨hproposes.isPlaced, hreplacement⟩
  have htext := Fix.applyFrom_eq_substitute file (rule.pairwise_select_check horder)
    fun f hf => (hfixes f hf).1
  exact ⟨⟨_, _, _⟩, applyFixes_eq_ok_iff.2 ⟨htext, rfl, rfl⟩,
    Fix.ne_nil_of_applyFrom hne (fun f hf => (hfixes f hf).2) htext⟩

end Rule

/-! ## All passes -/

namespace FixTask

variable {task : FixTask} {source : Text}

/-- The loop gives a result from each state that fixing goes through. -/
theorem exists_run_eq_ok
    (horder : ∀ text, ∀ m ∈ (task.read task.dialect text).members text, m.InOrder)
    {s : FixOutcome} (hreaches : task.Reaches source s) (budget : Nat) :
    ∃ outcome, task.run budget s = .ok outcome := by
  induction budget generalizing s with
  | zero => exact ⟨s, rfl⟩
  | succ budget ih =>
    cases hfixable : s.remaining.any (·.isFixable) with
    | false => exact ⟨s, run_clean hfixable _⟩
    | true =>
      obtain ⟨hne, hremaining⟩ := Rule.lint_eq_ok_iff.1 hreaches.lint_eq
      obtain ⟨pass, happlied, hpass⟩ := Rule.exists_applyFixes task.file (horder s.text) hne
      rw [← hremaining] at happlied
      -- Two of the ways on from here end the loop, and the third one is an accepted pass.
      cases hvalid : task.read.validateChange task.dialect s.text pass.text with
      | error cause => exact ⟨_, run_rejected hfixable happlied hvalid budget⟩
      | ok =>
        by_cases hsame : pass.text = s.text
        · exact ⟨_, run_unchanged hfixable happlied hvalid hsame budget⟩
        · have hstep : task.Step s (nextState s pass _) :=
            .pass hfixable happlied hvalid hsame (Rule.verdictsOn_eq_ok_iff.2 ⟨hpass, rfl⟩)
          rw [run_step hstep]
          exact ih (hreaches.step hstep)

/-- Fixing a source that is not empty gives a result. -/
theorem exists_fix_eq_ok
    (horder : ∀ text, ∀ m ∈ (task.read task.dialect text).members text, m.InOrder)
    (hne : source ≠ []) : ∃ outcome, task.fix source = .ok outcome := by
  have hchecked : task.rule.verdictsOn task.read task.dialect source = .ok _ :=
    Rule.verdictsOn_eq_ok_iff.2 ⟨hne, rfl⟩
  rw [fix_eq_run hchecked]
  exact exists_run_eq_ok horder (.start hchecked) maxFixPasses

end FixTask

end ClassSpacing
