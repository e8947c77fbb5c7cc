import ClassSpacing.Proofs.Fix.Result
import ClassSpacing.Proofs.Rule.Steady

/-!
# Fixing changes blank lines only

A `LineEdit` inserts line terminators as lines of their own and deletes blank lines. Each fix that
the rule proposes is one, and since the fixes of a pass stand one behind the other, so is the whole
pass. Over all passes the lines that are not blank stay as they are, in their order.
-/

namespace ClassSpacing

open Text

/-! ## Inserting and deleting lines -/

/-- The lines of a text before and after some lines are inserted and some blank lines are deleted.
    Each inserted line is `newline`. -/
inductive LineEdit (newline : Text) (inserts deletes : Prop) : List Text → List Text → Prop
  | nil : LineEdit newline inserts deletes [] []
  | keep (line : Text) {old new : List Text} (h : LineEdit newline inserts deletes old new) :
      LineEdit newline inserts deletes (line :: old) (line :: new)
  | insert {old new : List Text} (allowed : inserts) (h : LineEdit newline inserts deletes old new) :
      LineEdit newline inserts deletes old (newline :: new)
  | delete {line : Text} {old new : List Text} (allowed : deletes) (blank : line.isBlank = true)
      (h : LineEdit newline inserts deletes old new) :
      LineEdit newline inserts deletes (line :: old) new

namespace LineEdit

variable {newline : Text} {inserts deletes : Prop} {old new : List Text}

theorem keep_append (lines : List Text) (h : LineEdit newline inserts deletes old new) :
    LineEdit newline inserts deletes (lines ++ old) (lines ++ new) := by
  induction lines with
  | nil => exact h
  | cons line lines ih => exact .keep line ih

theorem refl (lines : List Text) : LineEdit newline inserts deletes lines lines := by
  induction lines with
  | nil => exact .nil
  | cons line lines ih => exact .keep line ih

theorem insert_replicate (allowed : inserts) (count : Nat)
    (h : LineEdit newline inserts deletes old new) :
    LineEdit newline inserts deletes old (List.replicate count newline ++ new) := by
  induction count with
  | zero => exact h
  | succ count ih => exact .insert allowed ih

theorem delete_append {lines : List Text} (allowed : deletes)
    (blank : ∀ line ∈ lines, line.isBlank = true) (h : LineEdit newline inserts deletes old new) :
    LineEdit newline inserts deletes (lines ++ old) new := by
  induction lines with
  | nil => exact h
  | cons line lines ih =>
    exact .delete allowed (blank line (List.mem_cons_self ..))
      (ih fun l hl => blank l (List.mem_cons_of_mem _ hl))

theorem sublist_of_not_deletes (h : LineEdit newline inserts deletes old new) (hnot : ¬ deletes) :
    old.Sublist new := by
  induction h with
  | nil => exact List.Sublist.slnil
  | keep line _ ih => exact ih.cons_cons line
  | insert _ _ ih => exact ih.cons newline
  | delete allowed => exact absurd allowed hnot

theorem sublist_of_not_inserts (h : LineEdit newline inserts deletes old new) (hnot : ¬ inserts) :
    new.Sublist old := by
  induction h with
  | nil => exact List.Sublist.slnil
  | keep line _ ih => exact ih.cons_cons line
  | insert allowed => exact absurd allowed hnot
  | @delete line _ _ _ _ _ ih => exact ih.cons line

/-- The lines that are not blank stay. -/
theorem filter_eq (h : LineEdit newline inserts deletes old new) (hblank : newline.isBlank = true) :
    (new.filter fun line => !line.isBlank) = old.filter fun line => !line.isBlank := by
  induction h with
  | nil => rfl
  | keep line _ ih => simp [List.filter_cons, ih]
  | insert _ _ ih => simp [hblank, ih]
  | delete _ blank _ ih => simp [blank, ih]

end LineEdit

/-- The lines of a text that are not blank. -/
def Text.nonBlankLines (t : Text) : List Text :=
  t.lines.filter fun line => !line.isBlank

theorem LineTable.isBlank_newline (table : LineTable) : table.newline.isBlank = true := by
  obtain ⟨line, heq, -, hblank⟩ := table.newline_eq
  simp [heq, hblank, isBlank_cons]

/-- Repeated terminators are lines of their own. -/
theorem Text.lines_repeated_append (table : LineTable) (count : Nat) (t : Text) :
    lines (table.newline.repeated count ++ t) = List.replicate count table.newline ++ lines t := by
  obtain ⟨line, heq, hline, -⟩ := table.newline_eq
  induction count with
  | zero => simp [repeated]
  | succ count ih =>
    have hsucc : table.newline.repeated (count + 1) ++ t =
        line ++ '\n' :: (table.newline.repeated count ++ t) := by
      simp [repeated, List.replicate_succ, heq]
    rw [hsucc, lines_line_append hline, ih, List.replicate_succ, List.cons_append, heq]

/-! ## The fixes of the rule -/

theorem Spacing.ne_exactly_zero_of_shortfall {spacing : Spacing} {present missing : Nat}
    (h : spacing.judge present = .shortfall missing) : spacing ≠ .exactly 0 := by
  rintro rfl
  simp only [judge, compare, Nat.not_lt_zero, if_false] at h
  split at h <;> simp at h

theorem Spacing.ne_atLeastOne_of_excess {spacing : Spacing} {present extra : Nat}
    (h : spacing.judge present = .excess extra) : spacing ≠ .atLeastOne := by
  rintro rfl
  simp only [judge] at h
  split at h <;> simp at h

/-- The exchange of blank lines that a fix of the rule makes is an edit of lines. -/
theorem Rule.lineEdit_of_mends (rule : Rule) {source : Text} {c : Cut source} {text : Text} {f : Fix}
    (h : c.Mends text (rule.spacing.judge (blankRun c.above)) f) :
    ∃ top gap new, c.Exchanges text f top gap new ∧ ∀ {old fixed : List Text},
      LineEdit (LineTable.ofText source).newline (rule.spacing ≠ .exactly 0)
        (rule.spacing ≠ .atLeastOne) old fixed →
      LineEdit (LineTable.ofText source).newline (rule.spacing ≠ .exactly 0)
        (rule.spacing ≠ .atLeastOne) (gap.lines ++ old) (new.lines ++ fixed) := by
  obtain ⟨top, gap, new, hexchange, ⟨missing, houtcome, rfl, rfl⟩ | ⟨houtcome, rfl⟩⟩ :=
    h.exists_exchanges
  · refine ⟨top, [], _, hexchange, fun hedit => ?_⟩
    have hlines := lines_repeated_append (LineTable.ofText source) missing []
    rw [List.append_nil, lines_nil, List.append_nil] at hlines
    rw [hlines]
    exact hedit.insert_replicate (Spacing.ne_exactly_zero_of_shortfall houtcome) missing
  · refine ⟨top, gap, [], hexchange, fun hedit => ?_⟩
    exact hedit.delete_append (Spacing.ne_atLeastOne_of_excess houtcome)
      fun line hline => isBlank_of_mem_lines hexchange.isBlank_gap hline

/-- Fixes of the rule that stand one behind the other insert and delete blank lines. The statement
    is about all lines from some line start on, so that the induction can go over the fixes from the
    last to the first. -/
theorem Rule.lineEdit_of_applyFrom (rule : Rule) {file : Path} {source text : Text}
    {fixes : List Fix} (hpairwise : fixes.Pairwise (·.stop ≤ ·.offset))
    (hfixes : ∀ f ∈ fixes, ∃ c : Cut source, rule.Proposes c f)
    (h : Fix.applyFrom file source fixes = .ok text) {front back : Text}
    (hsource : source = front ++ back) (hfront : front.EndsLine)
    (hle : ∀ f ∈ fixes, front.byteLength ≤ f.offset) :
    ∃ tail, text = front ++ tail ∧
      LineEdit (LineTable.ofText source).newline (rule.spacing ≠ .exactly 0)
        (rule.spacing ≠ .atLeastOne) back.lines tail.lines := by
  induction fixes generalizing text front back with
  | nil =>
    obtain rfl : source = text := Except.ok.inj h
    exact ⟨back, hsource, .refl _⟩
  | cons f rest ih =>
    rw [List.pairwise_cons] at hpairwise
    obtain ⟨c, body, after, hrest, hmends⟩ := hfixes f (List.mem_cons_self ..)
    obtain ⟨top, gap, new, hexchange, hgapEdit⟩ := rule.lineEdit_of_mends hmends
    have hcut := hexchange.source_eq hrest
    obtain ⟨middle, hmiddle, -⟩ := Except.bind_eq_ok_iff.1 h
    obtain ⟨tail, rfl, hmade⟩ := Fix.exists_tail_of_applyFrom hmiddle hpairwise.1 hcut
      hexchange.offset_eq hexchange.length_eq
    have htext : text = top ++ (f.replacement ++ tail) := Except.ok.inj (h.symm.trans hmade)
    -- The later fixes leave this one alone, and edit the lines below its blank lines.
    have hbelow : source = (top ++ gap) ++ ((c.indent ++ body) ++ after) := by
      simpa using hcut
    obtain ⟨tail', heq, hedit⟩ := ih hpairwise.2
      (fun g hg => hfixes g (List.mem_cons_of_mem _ hg)) hmiddle hbelow
      (hexchange.endsLine_top.append hexchange.endsLine_gap) fun g hg => by
        have hstop := hpairwise.1 g hg
        rw [Fix.stop, hexchange.offset_eq, hexchange.length_eq] at hstop
        simp only [byteLength_append] at hstop ⊢
        omega
    obtain rfl : (c.indent ++ body) ++ tail = tail' := by simpa using heq
    -- The lines between `front` and this fix stay.
    have hlen : front.byteLength ≤ top.byteLength := by
      rw [← hexchange.offset_eq]
      exact hle f (List.mem_cons_self ..)
    obtain ⟨x, rfl, rfl⟩ := exists_append_of_byteLength_le (hsource.symm.trans hcut) hlen
    have hx : x.EndsLine := hexchange.endsLine_top.of_append
    refine ⟨x ++ (new ++ ((c.indent ++ body) ++ tail)), ?_, ?_⟩
    · rw [htext, hexchange.replacement_eq]
      simp
    · rw [lines_append hx, lines_append hx, List.append_assoc gap,
        lines_append hexchange.endsLine_gap, lines_append hexchange.endsLine_new]
      exact (hgapEdit hedit).keep_append _

/-! ## Passes -/

variable {rule : Rule} {source : Text}

/-- A pass inserts and deletes blank lines. -/
theorem Rule.lineEdit_of_applyFixes {file : Path} {tree : Tree} {pass : FixPass}
    (horder : ∀ m ∈ tree.members source, m.InOrder)
    (h : applyFixes file source (rule.check source tree) = .ok pass) :
    LineEdit (LineTable.ofText source).newline (rule.spacing ≠ .exactly 0)
      (rule.spacing ≠ .atLeastOne) source.lines pass.text.lines := by
  obtain ⟨happly, -, -⟩ := applyFixes_eq_ok_iff.1 h
  obtain ⟨tail, rfl, hedit⟩ := rule.lineEdit_of_applyFrom (pairwise_select_check horder)
    (fun f hf => (proposes_of_mem_check horder (Fix.mem_of_mem_select hf)).1) happly
    (List.nil_append source).symm endsLine_nil (fun f _ => Nat.zero_le _)
  exact hedit

namespace FixTask

variable {task : FixTask}

/-- Each accepted pass edits the lines of its text. -/
theorem Step.lineEdit {s next : FixOutcome} (h : task.Step s next)
    (horder : ∀ m ∈ (task.read task.dialect s.text).members s.text, m.InOrder)
    (hlint : task.rule.lint task.read task.dialect s.text = .ok s.remaining) :
    LineEdit (LineTable.ofText s.text).newline (task.rule.spacing ≠ .exactly 0)
      (task.rule.spacing ≠ .atLeastOne) s.text.lines next.text.lines := by
  obtain ⟨-, happlied, -, -, -⟩ := h
  rw [(Rule.lint_eq_ok_iff.1 hlint).2] at happlied
  exact Rule.lineEdit_of_applyFixes horder happlied

/-- What all passes together keep. -/
structure KeepsLines (spacing : Spacing) (source text : Text) : Prop where
  nonBlankLines_eq : text.nonBlankLines = source.nonBlankLines
  onlyInserts : spacing = .atLeastOne → source.lines.Sublist text.lines
  onlyDeletes : spacing = .exactly 0 → text.lines.Sublist source.lines

theorem KeepsLines.refl (spacing : Spacing) (source : Text) : KeepsLines spacing source source :=
  ⟨rfl, fun _ => List.Sublist.refl _, fun _ => List.Sublist.refl _⟩

theorem KeepsLines.trans_lineEdit {spacing : Spacing} {text next : Text}
    (h : KeepsLines spacing source text) {table : LineTable}
    (hedit : LineEdit table.newline (spacing ≠ .exactly 0) (spacing ≠ .atLeastOne) text.lines
      next.lines) : KeepsLines spacing source next where
  nonBlankLines_eq := (hedit.filter_eq table.isBlank_newline).trans h.nonBlankLines_eq
  onlyInserts heq := (h.onlyInserts heq).trans (hedit.sublist_of_not_deletes (by simp [heq]))
  onlyDeletes heq := (hedit.sublist_of_not_inserts (by simp [heq])).trans (h.onlyDeletes heq)

/-- Every state that fixing goes through keeps the lines of the source. -/
theorem Reaches.keepsLines {s : FixOutcome} (h : task.Reaches source s)
    (horder : ∀ text, ∀ m ∈ (task.read task.dialect text).members text, m.InOrder) :
    KeepsLines task.rule.spacing source s.text := by
  induction h with
  | start checked => exact .refl _ _
  | step reached step ih => exact ih.trans_lineEdit (step.lineEdit (horder _) reached.lint_eq)

theorem Ends.text_eq {s outcome : FixOutcome} (h : task.Ends s outcome) : outcome.text = s.text := by
  cases h <;> rfl

/-- Fixing keeps the lines that are not blank, in their order and to the byte. Where at least one
    blank line is required lines are only inserted, where none may stand they are only deleted, and
    each line that a pass inserts is the terminator of the text it is made on. -/
theorem fix_keeps_lines {outcome : FixOutcome}
    (horder : ∀ text, ∀ m ∈ (task.read task.dialect text).members text, m.InOrder)
    (h : task.fix source = .ok outcome) :
    outcome.text.nonBlankLines = source.nonBlankLines ∧
      (task.rule.spacing = .atLeastOne → source.lines.Sublist outcome.text.lines) ∧
      (task.rule.spacing = .exactly 0 → outcome.text.lines.Sublist source.lines) ∧
      ∀ text pass,
        applyFixes task.file text (task.rule.check text (task.read task.dialect text)) = .ok pass →
        LineEdit (LineTable.ofText text).newline (task.rule.spacing ≠ .exactly 0)
          (task.rule.spacing ≠ .atLeastOne) text.lines pass.text.lines := by
  obtain ⟨last, hreaches, hends⟩ := exists_reaches_of_fix h
  have hkeeps := hreaches.keepsLines horder
  rw [← hends.text_eq] at hkeeps
  exact ⟨hkeeps.nonBlankLines_eq, hkeeps.onlyInserts, hkeeps.onlyDeletes,
    fun text pass hpass => Rule.lineEdit_of_applyFixes (horder text) hpass⟩

theorem fix_nested_keeps_lines :
    (∀ text, ∀ m ∈ (Nested.task.read Nested.task.dialect text).members text, m.InOrder) ∧
      ∃ outcome, Nested.task.fix Nested.source = .ok outcome ∧
        outcome.text.nonBlankLines = Nested.source.nonBlankLines ∧
        Nested.source.lines.Sublist outcome.text.lines := by
  have horder : ∀ text, ∀ m ∈ (Nested.task.read Nested.task.dialect text).members text, m.InOrder :=
    fun text m => .of_wellFormed (Nested.wellFormed_read text)
  obtain ⟨outcome, hfix⟩ := exists_fix_eq_ok horder (show Nested.source ≠ [] by decide)
  obtain ⟨hlines, hinserts, -, -⟩ := fix_keeps_lines horder hfix
  exact ⟨horder, outcome, hfix, hlines, hinserts rfl⟩

end FixTask

end ClassSpacing
