import ClassSpacing.Proofs.Fix.BlankLines
import ClassSpacing.Proofs.Fix.Removal

/-!
# What one fix does

A fix for a member replaces some bytes by others. Seen as lines, it inserts or deletes right above
the anchor's line as many blank lines as the requirement and the count there differ by, and every
other line stays. The anchor's line then has the required number of blank lines above it, and the
rule has nothing to say about it. Nothing is asked of the tree: all this follows from the cut of the
text at the anchor.
-/

namespace ClassSpacing

open Text

/-! ## Lines above a line -/

namespace Text

/-- The number of blank lines directly above a line. -/
def blankLinesAbove (t : Text) (line : Nat) : Nat :=
  ((t.lines.take line).reverse.takeWhile isBlank).length

/-- A text that ends a line has as many lines as line feeds. -/
theorem EndsLine.length_lines {t : Text} (h : EndsLine t) : t.lines.length = t.count '\n' := by
  induction hn : t.count '\n' generalizing t with
  | zero =>
    obtain rfl : t = [] := h.eq_nil (List.count_eq_zero.1 hn)
    rfl
  | succ n ih =>
    rcases h.eq_nil_or_snoc with rfl | ⟨top, line, rfl, htop, hline⟩
    · simp at hn
    · have hzero : line.count '\n' = 0 := List.count_eq_zero.2 hline
      have hcount : top.count '\n' = n := by simpa [hzero] using hn
      rw [lines_snoc htop hline, List.length_append, ih htop hcount, List.length_singleton]

theorem take_lines_append {above : Text} (h : EndsLine above) (rest : Text) :
    (above ++ rest).lines.take (above.count '\n') = above.lines := by
  rw [lines_append h, ← h.length_lines, List.take_left]

theorem drop_lines_append {above : Text} (h : EndsLine above) (rest : Text) :
    (above ++ rest).lines.drop (above.count '\n') = rest.lines := by
  rw [lines_append h, ← h.length_lines, List.drop_left]

end Text

namespace Cut

variable {source : Text} (c : Cut source)

theorem drop_lines : source.lines.drop c.line = (c.indent ++ c.rest).lines := by
  have hdrop := drop_lines_append c.endsLine (c.indent ++ c.rest)
  rwa [← c.source_eq] at hdrop

theorem blankLinesAbove_line : source.blankLinesAbove c.line = blankRun c.above := by
  have htake := take_lines_append c.endsLine (c.indent ++ c.rest)
  rw [← c.source_eq] at htake
  rw [blankLinesAbove, line, htake, blankRun]

theorem after?_offset : source.after? c.offset = some c.rest := by
  have hcut := splitAt?_append (c.above ++ c.indent) c.rest
  rw [List.append_assoc, ← c.source_eq, byteLength_append] at hcut
  rw [after?_eq_map_splitAt?, offset, hcut]
  rfl

end Cut

/-! ## The difference to the requirement -/

namespace Spacing

/-- The number of blank lines that a member has once its spacing is put right. -/
def required? : Spacing → Option Nat
  | atLeastOne => some 1
  | exactly lines => some lines
  | invalid _ => none

variable {spacing : Spacing} {required present : Nat}

/-- The missing lines are those by which the count falls short. -/
theorem eq_sub_of_shortfall (hrequired : spacing.required? = some required) {missing : Nat}
    (h : spacing.judge present = .shortfall missing) :
    present < required ∧ missing = required - present := by
  cases spacing with
  | atLeastOne =>
    obtain rfl : 1 = required := Option.some.inj hrequired
    simp only [judge] at h
    split at h
    · cases h
    · obtain rfl := Outcome.shortfall.inj h
      omega
  | exactly lines =>
    obtain rfl : lines = required := Option.some.inj hrequired
    simp only [judge, compare] at h
    split_ifs at h with hlt
    exact ⟨hlt, (Outcome.shortfall.inj h).symm⟩
  | invalid value => cases hrequired

/-- The superfluous lines are those by which the count is too high. -/
theorem eq_sub_of_excess (hrequired : spacing.required? = some required) {extra : Nat}
    (h : spacing.judge present = .excess extra) :
    required < present ∧ extra = present - required := by
  cases spacing with
  | atLeastOne =>
    simp only [judge] at h
    split at h <;> cases h
  | exactly lines =>
    obtain rfl : lines = required := Option.some.inj hrequired
    simp only [judge, compare] at h
    split_ifs at h with hlt hgt
    exact ⟨hgt, (Outcome.excess.inj h).symm⟩
  | invalid value => cases hrequired

theorem judge_required (hrequired : spacing.required? = some required) :
    spacing.judge required = .satisfied := by
  cases spacing with
  | atLeastOne =>
    obtain rfl : 1 = required := Option.some.inj hrequired
    rfl
  | exactly lines =>
    obtain rfl : lines = required := Option.some.inj hrequired
    exact judge_eq_satisfied_iff.2 rfl
  | invalid value => cases hrequired

theorem judge_ne_invalidOption (hrequired : spacing.required? = some required) (present : Nat) :
    spacing.judge present ≠ .invalidOption := by
  intro hinvalid
  obtain ⟨value, rfl⟩ := judge_eq_invalidOption_iff.1 hinvalid
  cases hrequired

end Spacing

/-! ## The corrected text -/

namespace Rule

variable {rule : Rule} {required : Nat} {source : Text} {c : Cut source} {text : Text} {f : Fix}

/-- A fix exchanges the superfluous blank lines for the missing ones; there are none of one kind. -/
theorem exists_exchanges_of_required (hrequired : rule.spacing.required? = some required)
    (h : c.Mends text (rule.spacing.judge (blankRun c.above)) f) :
    blankRun c.above ≠ required ∧ ∃ top gap,
      c.Exchanges text f top gap
        ((LineTable.ofText source).newline.repeated (required - blankRun c.above)) ∧
      gap.count '\n' = blankRun c.above - required := by
  obtain ⟨top, gap, new, hexchange, ⟨missing, houtcome, rfl, rfl⟩ | ⟨houtcome, rfl⟩⟩ :=
    h.exists_exchanges
  · obtain ⟨hlt, rfl⟩ := Spacing.eq_sub_of_shortfall hrequired houtcome
    refine ⟨Nat.ne_of_lt hlt, top, [], hexchange, ?_⟩
    rw [List.count_nil, Nat.sub_eq_zero_of_le (Nat.le_of_lt hlt)]
  · obtain ⟨hgt, hcount⟩ := Spacing.eq_sub_of_excess hrequired houtcome
    have hnone : (LineTable.ofText source).newline.repeated (required - blankRun c.above) = [] := by
      rw [Nat.sub_eq_zero_of_le (Nat.le_of_lt hgt)]
      rfl
    refine ⟨Nat.ne_of_gt hgt, top, gap, ?_, hcount⟩
    rwa [hnone]

end Rule

/-- The cut at the anchor after an exchange of the blank lines above it. -/
def Cut.Exchanges.cut {source : Text} {c : Cut source} {text : Text} {f : Fix} {top gap new : Text}
    (h : c.Exchanges text f top gap new) : Cut (top ++ (new ++ (c.indent ++ c.rest))) where
  above := top ++ new
  indent := c.indent
  rest := c.rest
  source_eq := (List.append_assoc ..).symm
  endsLine := h.endsLine_top.append h.endsLine_new
  sameLine := c.sameLine

namespace Rule

/-- The blank lines above the line `line` of `source`, of which there are `present`, are made
    `required` many in `fixed`. -/
structure Corrects (rule : Rule) (required : Nat) (source fixed : Text)
    (anchor line present : Nat) : Prop where
  lineOf_anchor : (LineTable.ofText source).lineOf anchor = line
  blankLinesAbove_line : source.blankLinesAbove line = present
  present_ne : present ≠ required
  /-- Where at least one blank line is required, only a line with none above it is corrected. -/
  present_eq_zero : rule.spacing = .atLeastOne → present = 0
  /-- The difference is inserted or deleted right above the line, and every other line stays. -/
  lines_eq : fixed.lines = source.lines.take (line - (present - required)) ++
    (List.replicate (required - present) (LineTable.ofText source).newline ++
      source.lines.drop line)
  /-- The line with what comes behind the anchor is that many lines further down or up. -/
  anchor_moves : ∃ moved rest, source.after? anchor = some rest ∧ fixed.after? moved = some rest ∧
    (LineTable.ofText fixed).lineOf moved = line + required - present
  blankLinesAbove_eq : fixed.blankLinesAbove (line + required - present) = required
  outcome_eq : rule.outcomeAt fixed (.ofText fixed) (line + required - present) = .satisfied

variable {rule : Rule} {required : Nat} {source : Text}

/-- The fix for a flagged member corrects the text at its anchor. -/
theorem Flags.corrects {m : Member} {d : Diagnostic} {c : Cut source} {text : Text} {f : Fix}
    (h : rule.Flags m d c text) (hrequired : rule.spacing.required? = some required)
    (hf : f ∈ d.fix?) :
    rule.Corrects required source (Edit.splice source f.offset f.stop f.replacement) c.offset
      c.line (blankRun c.above) := by
  obtain ⟨after, hrest⟩ := h.rest_eq
  obtain ⟨hne, top, gap, hexchange, hgap⟩ := exists_exchanges_of_required hrequired (h.mends f hf)
  rw [splice_of_exchanges hexchange hrest]
  -- What is inserted and what is deleted, counted in lines.
  obtain ⟨hnewEnds, hnewBlank, hnew⟩ :=
    (LineTable.ofText source).repeated_newline (required - blankRun c.above)
  have hline : c.line = top.count '\n' + gap.count '\n' := by
    rw [Cut.line, hexchange.above_eq, List.count_append]
  have hpresent : blankRun c.above = blankRun top + gap.count '\n' := by
    rw [hexchange.above_eq, blankRun_append_blank hexchange.endsLine_top hexchange.endsLine_gap
      hexchange.isBlank_gap]
  -- The cut at the anchor in the new text has the required blank lines above it.
  have hrun : blankRun hexchange.cut.above = required := by
    show blankRun (top ++ _) = required
    rw [blankRun_append_blank hexchange.endsLine_top hnewEnds hnewBlank]
    omega
  have hmoved : hexchange.cut.line = c.line + required - blankRun c.above := by
    show (top ++ _).count '\n' = _
    rw [List.count_append]
    omega
  refine ⟨c.lineOf_offset, c.blankLinesAbove_line, hne, ?_, ?_, ?_, ?_, ?_⟩
  · intro hspacing
    have hadmits := mt Spacing.judge_eq_satisfied_iff.2 h.unsatisfied
    rw [hspacing] at hadmits
    exact Nat.eq_zero_of_not_pos hadmits
  · have htop : source.lines.take (c.line - (blankRun c.above - required)) = top.lines := by
      have htake := take_lines_append hexchange.endsLine_top (gap ++ (c.indent ++ c.rest))
      have hsource : source = top ++ (gap ++ (c.indent ++ c.rest)) :=
        c.source_eq.trans (by simp [hexchange.above_eq])
      rw [← hsource] at htake
      rwa [← hgap, hline, Nat.add_sub_cancel]
    rw [lines_append hexchange.endsLine_top, lines_repeated_append, htop, c.drop_lines]
  · exact ⟨hexchange.cut.offset, c.rest, c.after?_offset, hexchange.cut.after?_offset,
      hexchange.cut.lineOf_offset.trans hmoved⟩
  · rw [← hmoved, hexchange.cut.blankLinesAbove_line, hrun]
  · rw [← hmoved, hexchange.cut.outcomeAt_line, hrun, Spacing.judge_required hrequired]

/-- A pass with one fix replaces its span. -/
theorem Flags.applyFixes_eq {m : Member} {d : Diagnostic} {c : Cut source} {text : Text} {f : Fix}
    (h : rule.Flags m d c text) (hf : d.fix? = some f) (file : Path) :
    applyFixes file source [d] =
      .ok ⟨Edit.splice source f.offset f.stop f.replacement, 1, 0⟩ := by
  obtain ⟨after, hrest⟩ := h.rest_eq
  obtain ⟨top, gap, new, hexchange, -⟩ := (h.mends f hf).exists_exchanges
  have hselect : Fix.select ([d].filterMap (·.fix?)) = [f] := by
    simp [hf, Fix.select, Fix.selectAfter]
  refine applyFixes_eq_ok_iff.2 ⟨?_, ?_, ?_⟩
  · rw [hselect, splice_replacement_of_exchanges hexchange hrest]
    exact Fix.applyFrom_cons (hexchange.source_eq hrest) hexchange.offset_eq hexchange.length_eq
      (congrArg Except.ok (hexchange.source_eq hrest))
  · rw [hselect]
    rfl
  · rw [hselect]
    simp [hf]

/-- Every complaint comes with a fix that makes the blank lines above the member's anchor as many as
    are required, whatever the tree is. -/
theorem check_fix_corrects (hrequired : rule.spacing.required? = some required) {tree : Tree}
    {d : Diagnostic} (h : d ∈ rule.check source tree) :
    ∃ m ∈ tree.members source, m.container = .classBody ∧
      (rule.examine source (.ofText source) m).diagnostic? = some d ∧
      ∃ f, d.fix? = some f ∧
        let fixed := Edit.splice source f.offset f.stop f.replacement
        (∀ file, applyFixes file source [d] = .ok ⟨fixed, 1, 0⟩) ∧
          ∃ line present, (LineTable.ofText source).lineStart? line = some d.offset ∧
            rule.Corrects required source fixed (m.anchor source (.ofText source)) line present := by
  obtain ⟨m, hm, hclass, hd⟩ := rule.mem_check.1 h
  obtain ⟨c, text, hflags⟩ := rule.exists_flags_of_diagnostic? hd
  obtain ⟨f, hf⟩ := Option.isSome_iff_exists.1
    (isSome_fix?_of_diagnostic? (Spacing.judge_ne_invalidOption hrequired) hd)
  obtain ⟨body, hchecked⟩ := hflags.isChecked
  refine ⟨m, hm, hclass, hd, f, hf, hflags.applyFixes_eq hf, c.line, blankRun c.above, ?_, ?_⟩
  · rw [hflags.offset_eq, c.lineStart?_line]
  · rw [hchecked.anchor_eq]
    exact hflags.corrects hrequired hf

end Rule

/-! ## Too many blank lines of several kinds -/

namespace Loose

/-- Three blank lines between two members: with a carriage return, with an em space, and with both
    blanks and a carriage return. -/
def source : Text :=
  "class A \x7b\r\n  a() \x7b\x7d\n\r\n\u2003\n \t\r\n  b() \x7b\x7d\n\x7d".toList

/-- The source with the fix for the second member. -/
def fixed : Text :=
  "class A \x7b\r\n  a() \x7b\x7d\n\r\n  b() \x7b\x7d\n\x7d".toList

def tree : Tree :=
  .onLetters .program 0 17 [.classOn 0 17 [.methodOn 7 11 [], .methodOn 12 16 []]]

def read : Reader := .ofLetters "classA\x7ba()\x7b\x7db()\x7b\x7d\x7d".toList tree

def rule : Rule := { spacing := .exactly 1 }

/-- The two lower ones of the blank lines go. -/
theorem check_fix_corrects_loose :
    rule.spacing.required? = some 1 ∧
      ∃ d ∈ rule.check source (read .typeScript source), ∃ f, d.fix? = some f ∧
        Edit.splice source f.offset f.stop f.replacement = fixed ∧
        rule.Corrects 1 source fixed 32 5 3 := by
  have hfix : ∃ d ∈ rule.check source (read .typeScript source), ∃ f, d.fix? = some f ∧
      Edit.splice source f.offset f.stop f.replacement = fixed := by
    decide +kernel
  obtain ⟨d, hd, f, hf, hfixed⟩ := hfix
  have hanchor : ∀ m ∈ (read .typeScript source).members source,
      (rule.examine source (.ofText source) m).diagnostic?.isSome = true →
        m.anchor source (.ofText source) = 32 := by
    decide +kernel
  obtain ⟨m, hm, -, hverdict, f', hf', -, line, present, -, hcorrects⟩ :=
    Rule.check_fix_corrects rfl hd
  obtain rfl : f = f' := Option.some.inj (hf.symm.trans hf')
  rw [hfixed, hanchor m hm (by rw [hverdict]; rfl)] at hcorrects
  have hline : 5 = line := by
    rw [← hcorrects.lineOf_anchor]
    decide +kernel
  subst hline
  have hpresent : 3 = present := by
    rw [← hcorrects.blankLinesAbove_line]
    decide +kernel
  subst hpresent
  exact ⟨rfl, d, hd, f, hf, hfixed, hcorrects⟩

end Loose

end ClassSpacing
