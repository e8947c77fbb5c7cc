import ClassSpacing.Proofs.Rule.Measure

/-!
# What the rule sees of a member

A `Cut` splits a text at a place into the lines above it, the part of its line before it, and the
rest. Everything the rule asks about a member's anchor is answered by the cut there. The spacing of a
member is measured exactly when `Member.IsChecked` holds of such a cut, and the fix that is proposed
is described by `Cut.Mends`: it puts line terminators in front of the member's first line, or takes
blank lines above it away, and writes everything else as it was.
-/

namespace ClassSpacing

open Text

/-! ## Cuts -/

/-- A text cut at a place. -/
structure Cut (source : Text) where
  /-- The lines above the line of the place. -/
  above : Text
  /-- What stands before the place on its line. -/
  indent : Text
  rest : Text
  source_eq : source = above ++ (indent ++ rest)
  endsLine : above.EndsLine
  sameLine : '\n' ∉ indent

namespace Cut

variable {source : Text} (c : Cut source)

/-- The place of a cut, in bytes. -/
def offset : Nat := c.above.byteLength + c.indent.byteLength

/-- The line of the place. -/
def line : Nat := c.above.count '\n'

/-- Every character boundary is the place of a cut. -/
theorem exists_of_append {before after : Text} (h : source = before ++ after) :
    ∃ c : Cut source, c.offset = before.byteLength ∧ c.above ++ c.indent = before ∧
      c.rest = after := by
  obtain ⟨above, indent, rfl, habove, hindent⟩ := exists_endsLine_append before
  exact ⟨⟨above, indent, after, by simp [h], habove, hindent⟩, by simp [offset], rfl, rfl⟩

/-- There is only one cut at a place. -/
theorem ext_of_offset {c d : Cut source} (h : c.offset = d.offset) : c = d := by
  have heq : (c.above ++ c.indent) ++ c.rest = (d.above ++ d.indent) ++ d.rest := by
    rw [List.append_assoc, List.append_assoc, ← c.source_eq, ← d.source_eq]
  have hlen : byteLength (c.above ++ c.indent) = byteLength (d.above ++ d.indent) := by
    simpa [offset] using h
  obtain ⟨hfront, hrest⟩ := append_inj_of_byteLength heq hlen
  obtain ⟨habove, hindent⟩ :=
    endsLine_append_inj hfront c.endsLine d.endsLine c.sameLine d.sameLine
  cases c
  cases d
  simp_all

theorem lineOf_offset : (LineTable.ofText source).lineOf c.offset = c.line := by
  have hzero : c.indent.count '\n' = 0 := List.count_eq_zero.2 c.sameLine
  have hline := LineTable.lineOf_byteLength (c.above ++ c.indent) c.rest
  rw [List.append_assoc, ← c.source_eq] at hline
  simpa [offset, line, hzero] using hline

theorem lineStart?_line :
    (LineTable.ofText source).lineStart? c.line = some c.above.byteLength := by
  have hstart := LineTable.lineStart?_count c.endsLine (c.indent ++ c.rest)
  rwa [← c.source_eq] at hstart

theorem slice?_indent : source.slice? c.above.byteLength c.offset = some c.indent :=
  slice?_eq_some_iff.2 ⟨c.above, c.rest, by simp [c.source_eq], rfl, rfl⟩

/-- A place starts its line if only white space stands before it there. -/
theorem startsLine_offset :
    startsLine source (.ofText source) c.offset = c.indent.isBlank := by
  simp [startsLine, c.lineOf_offset, c.lineStart?_line, c.slice?_indent]

theorem outcomeAt_line (rule : Rule) :
    rule.outcomeAt source (.ofText source) c.line = rule.spacing.judge (blankRun c.above) := by
  have houtcome := rule.outcomeAt_eq_judge c.endsLine (c.indent ++ c.rest)
  rwa [← c.source_eq] at houtcome

/-- A place before the end of some lines is on one of them. -/
theorem line_lt_count {front back : Text} (hsource : source = front ++ back) (hfront : front.EndsLine)
    (h : c.offset < front.byteLength) : c.line < front.count '\n' := by
  have heq : (c.above ++ c.indent) ++ c.rest = front ++ back :=
    (List.append_assoc ..).trans (c.source_eq.symm.trans hsource)
  obtain ⟨x, rfl, -⟩ := exists_append_of_byteLength_le heq (by
    simpa [offset] using Nat.le_of_lt h)
  -- What comes behind the place is not empty, so it has the line feed at the end.
  have hmem : '\n' ∈ x := by
    rcases List.eq_nil_or_concat x with rfl | ⟨y, e, rfl⟩
    · simp [offset] at h
    · obtain rfl : e = '\n' := hfront e (by simp)
      simp
  have hpos := List.count_pos_iff.2 hmem
  simp only [line, List.count_append]
  omega

/-- A place from which a text can be sliced has a cut, and the text comes right behind it. -/
theorem exists_of_slice? {start stop : Nat} {text : Text}
    (h : source.slice? start stop = some text) :
    ∃ c : Cut source, c.offset = start ∧ stop = start + text.byteLength ∧
      ∃ after, c.rest = text ++ after := by
  obtain ⟨before, after, rfl, rfl, rfl⟩ := slice?_eq_some_iff.1 h
  obtain ⟨c, hoffset, -, hrest⟩ := exists_of_append (List.append_assoc before text after)
  exact ⟨c, hoffset, rfl, after, hrest⟩

/-- A slice that ends at a place and starts at its line start is what stands before it. -/
theorem exists_of_slice?_lineStart? {start stop : Nat} {indent : Text}
    (hstart : (LineTable.ofText source).lineStart? ((LineTable.ofText source).lineOf stop) =
      some start)
    (h : source.slice? start stop = some indent) :
    ∃ c : Cut source, c.offset = stop ∧ c.above.byteLength = start ∧ c.indent = indent := by
  obtain ⟨before, after, hsource, rfl, rfl⟩ := slice?_eq_some_iff.1 h
  obtain ⟨c, hoffset, hfront, -⟩ := exists_of_append hsource
  rw [byteLength_append] at hoffset
  have habove : c.above.byteLength = before.byteLength := by
    rw [← hoffset, c.lineOf_offset, c.lineStart?_line] at hstart
    exact Option.some.inj hstart
  exact ⟨c, hoffset, habove, (append_inj_of_byteLength hfront habove).2⟩

end Cut

/-! ## Places where something starts -/

/-- A cut right before a character other than white space. -/
def Cut.IsSolid {source : Text} (c : Cut source) : Prop :=
  ∃ e rest, c.rest = e :: rest ∧ isSpace e = false

/-- Nothing blank comes right behind a solid cut. -/
theorem Cut.IsSolid.not_blank {source : Text} {c : Cut source} (h : c.IsSolid)
    {top gap back : Text} (hsource : source = top ++ (gap ++ back))
    (hoffset : c.offset = top.byteLength) (hne : gap ≠ []) : gap.isBlank = false := by
  obtain ⟨e, rest, hrest, he⟩ := h
  have heq : (c.above ++ c.indent) ++ c.rest = top ++ (gap ++ back) := by
    rw [List.append_assoc, ← c.source_eq, hsource]
  obtain ⟨-, hback⟩ := append_inj_of_byteLength heq (by simpa [Cut.offset] using hoffset)
  obtain ⟨a, gap, rfl⟩ := List.exists_cons_of_ne_nil hne
  rw [hrest, List.cons_append] at hback
  obtain rfl := (List.cons.inj hback).1
  simp [isBlank_cons, he]

/-- A span of the text that starts with a character other than white space. -/
def Span.IsSolid (source : Text) (span : Span) : Prop :=
  ∃ e rest, source.slice? span.start span.stop = some (e :: rest) ∧ isSpace e = false

theorem Span.IsSolid.cut {source : Text} {span : Span} (h : span.IsSolid source) {c : Cut source}
    (hoffset : c.offset = span.start) : c.IsSolid := by
  obtain ⟨e, rest, hslice, he⟩ := h
  obtain ⟨d, hd, -, after, hrest⟩ := Cut.exists_of_slice? hslice
  obtain rfl := Cut.ext_of_offset (hd.trans hoffset.symm)
  exact ⟨e, rest ++ after, hrest, he⟩

/-! ## The anchor -/

theorem attachedStart_mem {source : Text} {table : LineTable} {below start : Nat}
    {above : List Tree} (h : attachedStart source table below above = some start) :
    ∃ t ∈ above, t.kind = .comment ∧ t.span.start = start := by
  induction above generalizing below with
  | nil => simp [attachedStart] at h
  | cons t rest ih =>
    rw [attachedStart] at h
    split at h
    · rename_i hattaches
      have hkind : t.kind = .comment := by
        simp only [attaches, Bool.and_eq_true, beq_iff_eq] at hattaches
        exact hattaches.1.1
      cases hrest : attachedStart source table (table.lineOf t.span.start) rest with
      | none =>
        rw [hrest] at h
        exact ⟨t, List.mem_cons_self .., hkind, Option.some.inj h⟩
      | some top =>
        rw [hrest] at h
        obtain rfl := Option.some.inj h
        obtain ⟨u, hu, hrest⟩ := ih hrest
        exact ⟨u, List.mem_cons_of_mem _ hu, hrest⟩
    · simp at h

/-- The anchor is the start of the member's head or of a comment above it. -/
theorem Member.anchor_eq_start (source : Text) (table : LineTable) (m : Member) :
    m.anchor source table = m.head.span.start ∨
      ∃ t ∈ m.aboveHead, t.kind = .comment ∧ m.anchor source table = t.span.start := by
  rw [anchor]
  cases h : m.commentStart? source table with
  | none => exact .inl rfl
  | some start =>
    obtain ⟨t, ht, hkind, rfl⟩ := attachedStart_mem h
    exact .inr ⟨t, ht, hkind, rfl⟩

/-! ## The line above -/

/-- What the last line of a text says, where the text ends a line. -/
def Text.lastLine? (above : Text) : Option Text :=
  (lines above).getLast?.map fun line => dropTrailingReturn line.dropLast

theorem Text.lastLine?_snoc {top line : Text} (htop : EndsLine top) (hline : '\n' ∉ line) :
    lastLine? (top ++ (line ++ ['\n'])) = some line.dropTrailingReturn := by
  rw [lastLine?, lines_snoc htop hline]
  simp

/-- The last line does not depend on what comes before it. -/
theorem Text.lastLine?_append {top below : Text} (htop : EndsLine top) (hbelow : EndsLine below)
    (hne : below ≠ []) : lastLine? (top ++ below) = lastLine? below := by
  rcases hbelow.eq_nil_or_snoc with rfl | ⟨front, line, rfl, hfront, hline⟩
  · exact absurd rfl hne
  · rw [← List.append_assoc, lastLine?_snoc (htop.append hfront) hline,
      lastLine?_snoc hfront hline]

/-- The line above the line of a cut says what the last line above says. -/
theorem Cut.lineText?_pred {source : Text} (c : Cut source) (hpos : 0 < c.line) :
    (LineTable.ofText source).lineText? source (c.line - 1) = c.above.lastLine? := by
  rcases c.endsLine.eq_nil_or_snoc with habove | ⟨top, line, habove, htop, hline⟩
  · simp [Cut.line, habove] at hpos
  · have hzero : line.count '\n' = 0 := List.count_eq_zero.2 hline
    have hsource : source = top ++ (line ++ '\n' :: (c.indent ++ c.rest)) :=
      c.source_eq.trans (by simp [habove])
    have hcount : c.line - 1 = top.count '\n' := by simp [Cut.line, habove, hzero]
    have htext := LineTable.lineText?_of_cut htop hline (c.indent ++ c.rest)
    rw [← hsource] at htext
    rw [hcount, htext, habove, lastLine?_snoc htop hline]

/-! ## The checked members -/

/-- A member whose spacing is measured: its anchor is at the cut, starts its line below the class
    header, and is not exempt. -/
structure Member.IsChecked (source : Text) (m : Member) (c : Cut source) (body : Tree) : Prop where
  anchor_eq : m.anchor source (.ofText source) = c.offset
  body_eq : m.body? = some body
  isBlank_indent : c.indent.isBlank = true
  header_lt : (LineTable.ofText source).lineOf body.span.start < c.line
  not_belowHeader : ¬ (c.line - 1 = (LineTable.ofText source).lineOf body.span.start ∧
    m.isFirst = true)
  not_belowBrace : c.above.lastLine?.any isOpeningBraceLine = false

namespace Rule

variable (rule : Rule) {source : Text}

/-- The verdict on a checked member. -/
theorem examine_of_isChecked {m : Member} {c : Cut source} {body : Tree}
    (h : m.IsChecked source c body) :
    rule.examine source (.ofText source) m =
      .measured c.line (rule.spacing.judge (blankRun c.above))
        (rule.diagnosticFor? source (.ofText source) c.line c.above.byteLength c.offset m.stop
          c.indent (rule.spacing.judge (blankRun c.above))) := by
  have hbrace := c.lineText?_pred (Nat.lt_of_le_of_lt (Nat.zero_le _) h.header_lt)
  have hheader : ¬ c.line ≤ (LineTable.ofText source).lineOf body.span.start :=
    Nat.not_le.2 h.header_lt
  have hfirst : (c.line - 1 == (LineTable.ofText source).lineOf body.span.start && m.isFirst) =
      false := by
    simpa using h.not_belowHeader
  simp only [examine, h.anchor_eq, h.body_eq, c.lineOf_offset, c.lineStart?_line, c.slice?_indent,
    h.isBlank_indent, hbrace, h.not_belowBrace, c.outcomeAt_line, hheader, hfirst]
  simp

/-- Only checked members are measured. -/
theorem exists_isChecked_of_measured {m : Member} {line : Nat} {outcome : Outcome}
    {diagnostic? : Option Diagnostic}
    (h : rule.examine source (.ofText source) m = .measured line outcome diagnostic?) :
    ∃ c body, m.IsChecked source c body := by
  unfold examine at h
  simp only at h
  split at h
  · rename_i body lineStart hbody hstart
    split at h
    · simp at h
    · rename_i indent hslice
      obtain ⟨c, hoffset, habove, rfl⟩ := Cut.exists_of_slice?_lineStart? hstart hslice
      rw [← hoffset, c.lineOf_offset] at h
      split_ifs at h with hblank hheader hfirst hbrace
      have hpos : 0 < c.line := by omega
      rw [c.lineText?_pred hpos] at hbrace
      refine ⟨c, body, hoffset.symm, hbody, by simpa using hblank, by omega, ?_,
        by simpa using hbrace⟩
      simpa using hfirst
  · simp at h

/-- A complaint is about a checked member. -/
theorem exists_isChecked_of_diagnostic? {m : Member} {d : Diagnostic}
    (h : (rule.examine source (.ofText source) m).diagnostic? = some d) :
    ∃ c body, m.IsChecked source c body := by
  cases hv : rule.examine source (.ofText source) m with
  | measured line outcome diagnostic? => exact rule.exists_isChecked_of_measured hv
  | _ => simp [hv, Verdict.diagnostic?] at h

end Rule

/-! ## The proposed fix -/

/-- The fix that puts right what was found out about the lines above a cut, where `text` is what the
    member says from the cut on. -/
inductive Cut.Mends {source : Text} (c : Cut source) (text : Text) : Outcome → Fix → Prop
  | insert {missing : Nat} : c.Mends text (.shortfall missing) {
      offset := c.above.byteLength
      length := (c.indent ++ text).byteLength
      replacement := (LineTable.ofText source).newline.repeated missing ++ (c.indent ++ text) }
  | delete {top gap : Text} (above_eq : c.above = top ++ gap) (htop : top.EndsLine)
      (hgap : gap.EndsLine) (hblank : gap.isBlank = true) :
      c.Mends text (.excess (gap.count '\n')) {
        offset := top.byteLength
        length := (gap ++ (c.indent ++ text)).byteLength
        replacement := c.indent ++ text }

/-- Terminators of a text, one behind the other, are blank lines. -/
theorem LineTable.repeated_newline (table : LineTable) (count : Nat) :
    (table.newline.repeated count).EndsLine ∧ (table.newline.repeated count).isBlank = true ∧
      (table.newline.repeated count).count '\n' = count := by
  obtain ⟨line, heq, hline, hblank⟩ := table.newline_eq
  have hzero : line.count '\n' = 0 := List.count_eq_zero.2 hline
  induction count with
  | zero => exact ⟨by simp [repeated], rfl, rfl⟩
  | succ count ih =>
    have hsucc : table.newline.repeated (count + 1) =
        (line ++ ['\n']) ++ table.newline.repeated count := by
      simp [repeated, List.replicate_succ, heq]
    rw [hsucc]
    refine ⟨(endsLine_append_newline line).append ih.1, ?_, ?_⟩
    · simp [hblank, ih.2.1, isBlank_cons]
    · simp only [List.count_append, List.count_singleton_self, hzero, ih.2.2]
      omega

/-- A fix as an exchange of blank lines: above the cut, `gap` gives way to `new`. -/
structure Cut.Exchanges {source : Text} (c : Cut source) (text : Text) (f : Fix)
    (top gap new : Text) : Prop where
  above_eq : c.above = top ++ gap
  endsLine_top : top.EndsLine
  endsLine_gap : gap.EndsLine
  isBlank_gap : gap.isBlank = true
  endsLine_new : new.EndsLine
  isBlank_new : new.isBlank = true
  offset_eq : f.offset = top.byteLength
  length_eq : f.length = (gap ++ (c.indent ++ text)).byteLength
  replacement_eq : f.replacement = new ++ (c.indent ++ text)

/-- A fix that mends the spacing inserts terminators or deletes blank lines. -/
theorem Cut.Mends.exists_exchanges {source : Text} {c : Cut source} {text : Text}
    {outcome : Outcome} {f : Fix} (h : c.Mends text outcome f) :
    ∃ top gap new, c.Exchanges text f top gap new ∧
      ((∃ missing, outcome = .shortfall missing ∧ gap = [] ∧
          new = (LineTable.ofText source).newline.repeated missing) ∨
        outcome = .excess (gap.count '\n') ∧ new = []) := by
  cases h with
  | @insert missing =>
    obtain ⟨hends, hblank, -⟩ := (LineTable.ofText source).repeated_newline missing
    exact ⟨c.above, [], (LineTable.ofText source).newline.repeated missing,
      ⟨by simp, c.endsLine, by simp, rfl, hends, hblank, rfl, rfl, rfl⟩,
      .inl ⟨missing, rfl, rfl, rfl⟩⟩
  | @delete top gap above_eq htop hgap hblank =>
    exact ⟨top, gap, [], ⟨above_eq, htop, hgap, hblank, by simp, rfl, rfl, rfl, rfl⟩,
      .inr ⟨rfl, rfl⟩⟩

/-- The source with a fix as an exchange of blank lines in it. -/
theorem Cut.Exchanges.source_eq {source : Text} {c : Cut source} {text after : Text} {f : Fix}
    {top gap new : Text} (h : c.Exchanges text f top gap new) (hrest : c.rest = text ++ after) :
    source = top ++ ((gap ++ (c.indent ++ text)) ++ after) :=
  c.source_eq.trans (by simp [h.above_eq, hrest])

namespace Rule

variable (rule : Rule) {source : Text}

/-- The fix for a member that says `text` from the cut to its end. -/
theorem mends_of_fixFor? {c : Cut source} {text : Text} {stop : Nat} {f : Fix}
    (hstop : stop = c.offset + text.byteLength)
    (h : fixFor? (.ofText source) c.line c.above.byteLength stop c.indent text
      (rule.spacing.judge (blankRun c.above)) = some f) :
    c.Mends text (rule.spacing.judge (blankRun c.above)) f := by
  cases houtcome : rule.spacing.judge (blankRun c.above) with
  | satisfied => simp [houtcome, fixFor?] at h
  | invalidOption => simp [houtcome, fixFor?] at h
  | shortfall missing =>
    have hlen : stop - c.above.byteLength = (c.indent ++ text).byteLength := by
      simp only [hstop, Cut.offset, byteLength_append]
      omega
    rw [houtcome, fixFor?, hlen, List.append_assoc] at h
    obtain rfl := Option.some.inj h
    exact .insert
  | excess extra =>
    obtain ⟨-, hle, -⟩ := Spacing.judge_sub_of_excess houtcome
    obtain ⟨top, gap, habove, htop, hgap, hblank, rfl⟩ := exists_blank_gap c.endsLine hle
    have hline : c.line = top.count '\n' + gap.count '\n' := by simp [Cut.line, habove]
    have hstart : (LineTable.ofText source).lineStart? (c.line - gap.count '\n') =
        some top.byteLength := by
      rw [hline, Nat.add_sub_cancel]
      exact LineTable.lineStart?_eq_some_iff.2 ⟨top, gap ++ (c.indent ++ c.rest),
        c.source_eq.trans (by simp [habove]), htop, rfl, rfl⟩
    have hlen : stop - top.byteLength = (gap ++ (c.indent ++ text)).byteLength := by
      simp only [hstop, Cut.offset, habove, byteLength_append]
      omega
    have hfits : gap.count '\n' ≤ c.line := by omega
    rw [houtcome, fixFor?, if_pos hfits, hstart, Option.map_some, hlen] at h
    obtain rfl := Option.some.inj h
    exact .delete habove htop hgap hblank

/-- What is known about a complaint. -/
structure Flags (m : Member) (d : Diagnostic) (c : Cut source) (text : Text) : Prop where
  isChecked : ∃ body, m.IsChecked source c body
  /-- The member's text comes right behind the cut. -/
  rest_eq : ∃ after, c.rest = text ++ after
  stop_eq : m.stop = c.offset + text.byteLength
  offset_eq : d.offset = c.above.byteLength
  length_eq : d.length = (c.indent ++ text).byteLength
  unsatisfied : rule.spacing.judge (blankRun c.above) ≠ .satisfied
  mends : ∀ f ∈ d.fix?, c.Mends text (rule.spacing.judge (blankRun c.above)) f

theorem mem_check {tree : Tree} {d : Diagnostic} :
    d ∈ rule.check source tree ↔ ∃ m ∈ tree.members source, m.container = .classBody ∧
      (rule.examine source (.ofText source) m).diagnostic? = some d := by
  simp [check, verdicts, List.mem_filterMap, and_assoc]

/-- What a complaint is made of. It has no fix only where there is no requirement. -/
theorem eq_of_diagnosticFor? {table : LineTable} {line lineStart anchor stop : Nat} {indent : Text}
    {outcome : Outcome} {d : Diagnostic}
    (h : rule.diagnosticFor? source table line lineStart anchor stop indent outcome = some d) :
    outcome ≠ .satisfied ∧ ∃ text, source.slice? anchor stop = some text ∧
      (d.fix? = none → outcome = .invalidOption) ∧
      d = {
        severity := rule.severity
        offset := lineStart
        length := stop - lineStart
        message := rule.spacing.message
        fix? := fixFor? table line lineStart stop indent text outcome
        start := table.position source lineStart
        stop := table.position source stop } := by
  rw [diagnosticFor?] at h
  split at h
  · simp at h
  · rename_i hsat
    refine ⟨by simpa [Outcome.isSatisfied] using hsat, ?_⟩
    obtain ⟨text, hslice, hd⟩ := Option.bind_eq_some_iff.1 h
    simp only at hd
    split at hd
    · simp at hd
    · rename_i hfix
      obtain rfl := Option.some.inj hd
      refine ⟨text, hslice, fun hnone => ?_, rfl⟩
      simpa [show fixFor? table line lineStart stop indent text outcome = none from hnone]
        using hfix

/-- Every complaint is about a checked member, and its fix mends the spacing. -/
theorem exists_flags_of_diagnostic? {m : Member} {d : Diagnostic}
    (h : (rule.examine source (.ofText source) m).diagnostic? = some d) :
    ∃ (c : Cut source) (text : Text), rule.Flags m d c text := by
  obtain ⟨c, body, hchecked⟩ := rule.exists_isChecked_of_diagnostic? h
  rw [rule.examine_of_isChecked hchecked] at h
  obtain ⟨hunsatisfied, text, hslice, -, rfl⟩ := rule.eq_of_diagnosticFor? h
  obtain ⟨c', hoffset, hstop, hrest⟩ := Cut.exists_of_slice? hslice
  obtain rfl := Cut.ext_of_offset hoffset
  have hlen : m.stop - c'.above.byteLength = (c'.indent ++ text).byteLength := by
    simp only [hstop, Cut.offset, byteLength_append]
    omega
  exact ⟨c', text, ⟨body, hchecked⟩, hrest, hstop, rfl, hlen, hunsatisfied,
    fun f hf => rule.mends_of_fixFor? hstop hf⟩

/-- The flagged text: the member's first line up to the anchor, and what the member says. -/
theorem Flags.snippet?_eq {rule : Rule} {m : Member} {d : Diagnostic} {c : Cut source} {text : Text}
    (h : rule.Flags m d c text) : d.snippet? source = some (c.indent ++ text) := by
  obtain ⟨after, hrest⟩ := h.rest_eq
  refine slice?_eq_some_iff.2 ⟨c.above, after, ?_, h.offset_eq.symm, by rw [h.length_eq]⟩
  rw [List.append_assoc, List.append_assoc, ← hrest]
  exact c.source_eq

/-- A fix that the rule proposes for some text at a cut. -/
def Proposes (c : Cut source) (f : Fix) : Prop :=
  ∃ text after, c.rest = text ++ after ∧ c.Mends text (rule.spacing.judge (blankRun c.above)) f

theorem Flags.proposes {rule : Rule} {m : Member} {d : Diagnostic} {c : Cut source} {text : Text}
    (h : rule.Flags m d c text) {f : Fix} (hf : f ∈ d.fix?) : rule.Proposes c f := by
  obtain ⟨after, hrest⟩ := h.rest_eq
  exact ⟨text, after, hrest, h.mends f hf⟩

end Rule

end ClassSpacing
