import ClassSpacing.Proofs.Text.Crlf
import ClassSpacing.Proofs.Tree.Shift

/-!
# Line ends and the rule

The rule finds the same in a text without carriage returns and in the text with one before each line
feed, where the tree is the same but for the places of its nodes. Everything it computes on the way
is computed in the second text from moved places, and comes out moved: the anchor of a member, what
is found out about it, the complaint and its fix.
-/

namespace ClassSpacing

open Text

/-! ## What moves -/

/-- A fix of the text with carriage returns. -/
def Fix.crlf (source : Text) (f : Fix) : Fix where
  offset := source.crlfOffset f.offset
  length := source.crlfOffset f.stop - source.crlfOffset f.offset
  replacement := f.replacement.crlf

/-- A complaint about the text with carriage returns. -/
def Diagnostic.crlf (source : Text) (d : Diagnostic) : Diagnostic :=
  { d with
    offset := source.crlfOffset d.offset
    length := source.crlfOffset (d.offset + d.length) - source.crlfOffset d.offset
    fix? := d.fix?.map (Fix.crlf source)
    start := d.start.crlf source
    stop := d.stop.crlf source }

/-- A verdict on a member of the text with carriage returns. -/
def Verdict.crlf (source : Text) : Verdict → Verdict
  | sharesLine anchor => sharesLine (source.crlfOffset anchor)
  | measured line outcome diagnostic? =>
    measured line outcome (diagnostic?.map (Diagnostic.crlf source))
  | v => v

theorem Verdict.diagnostic?_crlf (source : Text) (v : Verdict) :
    (v.crlf source).diagnostic? = v.diagnostic?.map (Diagnostic.crlf source) := by
  cases v <;> rfl

theorem Diagnostic.isFixable_crlf (source : Text) (d : Diagnostic) :
    (d.crlf source).isFixable = d.isFixable := by
  simp [isFixable, crlf]

/-! ## The anchor of a member -/

theorem startsLine_crlf (source : Text) (offset : Nat) :
    startsLine source.crlf (.ofText source.crlf) (source.crlfOffset offset) =
      startsLine source (.ofText source) offset := by
  unfold startsLine
  rw [LineTable.lineOf_crlf, LineTable.lineStart?_crlf]
  cases (LineTable.ofText source).lineStart? ((LineTable.ofText source).lineOf offset) with
  | none => rfl
  | some start =>
    simp only [Option.map_some, slice?_crlf]
    cases source.slice? start offset with
    | none => rfl
    | some indent => simp

theorem attaches_crlf (source : Text) (below : Nat) (t : Tree) :
    attaches source.crlf (.ofText source.crlf) below (t.shift source.crlfOffset) =
      attaches source (.ofText source) below t := by
  simp only [attaches, Tree.kind_shift, Tree.span_shift, Span.map, LineTable.lineOf_crlf,
    startsLine_crlf]

theorem attachedStart_crlf (source : Text) (below : Nat) (above : List Tree) :
    attachedStart source.crlf (.ofText source.crlf) below
        (above.map (Tree.shift source.crlfOffset)) =
      (attachedStart source (.ofText source) below above).map source.crlfOffset := by
  induction above generalizing below with
  | nil => rfl
  | cons t rest ih =>
    rw [List.map_cons, attachedStart, attachedStart, attaches_crlf]
    split
    · rw [Tree.span_shift, Span.map, LineTable.lineOf_crlf, ih, Option.map_or]
      rfl
    · rfl

theorem Member.anchor_crlf (source : Text) (m : Member) :
    (m.shift source.crlfOffset).anchor source.crlf (.ofText source.crlf) =
      source.crlfOffset (m.anchor source (.ofText source)) := by
  have hstart : (m.shift source.crlfOffset).start = source.crlfOffset m.start := by
    simp [start, shift, Span.map]
  rw [anchor, commentStart?, hstart, LineTable.lineOf_crlf, shift, attachedStart_crlf, anchor,
    commentStart?, Option.getD_map]

/-! ## The complaint about a member -/

namespace Rule

variable (rule : Rule) {source : Text}

theorem outcomeAt_crlf (h : '\r' ∉ source) (line : Nat) :
    rule.outcomeAt source.crlf (.ofText source.crlf) line =
      rule.outcomeAt source (.ofText source) line := by
  have hblank : blankAbove source.crlf (.ofText source.crlf) line =
      blankAbove source (.ofText source) line := by
    funext distance
    unfold blankAbove
    rw [LineTable.lineText?_crlf h]
  rw [outcomeAt, hblank, outcomeAt]

theorem fixFor?_crlf (h : '\r' ∉ source) (hmem : '\n' ∈ source) {line lineStart stop : Nat}
    (hline : (LineTable.ofText source).lineStart? line = some lineStart) (hle : lineStart ≤ stop)
    (indent text : Text) (outcome : Outcome) :
    fixFor? (.ofText source.crlf) line (source.crlfOffset lineStart) (source.crlfOffset stop)
        indent.crlf text.crlf outcome =
      (fixFor? (.ofText source) line lineStart stop indent text outcome).map (Fix.crlf source) := by
  cases outcome with
  | satisfied => rfl
  | invalidOption => rfl
  | shortfall missing =>
    have hstop : lineStart + (stop - lineStart) = stop := by omega
    simp [fixFor?, Fix.crlf, Fix.stop, hstop, LineTable.newline_crlf h hmem, crlf_repeated]
  | excess extra =>
    simp only [fixFor?, LineTable.lineStart?_crlf]
    split
    · cases hstart : (LineTable.ofText source).lineStart? (line - extra) with
      | none => rfl
      | some start =>
        -- The line where the fix starts is further up.
        have hstartLe := LineTable.le_of_lineStart? (Nat.sub_le line extra) hstart hline
        have hstop : start + (stop - start) = stop := by omega
        simp [Fix.crlf, Fix.stop, hstop]
    · rfl

theorem diagnosticFor?_crlf (h : '\r' ∉ source) (hmem : '\n' ∈ source)
    {line lineStart anchor : Nat}
    (hline : (LineTable.ofText source).lineStart? line = some lineStart) (hle : lineStart ≤ anchor)
    (stop : Nat) (indent : Text) (outcome : Outcome) :
    rule.diagnosticFor? source.crlf (.ofText source.crlf) line (source.crlfOffset lineStart)
        (source.crlfOffset anchor) (source.crlfOffset stop) indent.crlf outcome =
      (rule.diagnosticFor? source (.ofText source) line lineStart anchor stop indent outcome).map
        (Diagnostic.crlf source) := by
  unfold diagnosticFor?
  split
  · rfl
  · rw [slice?_crlf]
    cases hslice : source.slice? anchor stop with
    | none => rfl
    | some text =>
      obtain ⟨before, after, -, -, hstop⟩ := slice?_eq_some_iff.1 hslice
      have hlength : lineStart + (stop - lineStart) = stop := by omega
      have hfix := fixFor?_crlf h hmem hline (by omega : lineStart ≤ stop) indent text outcome
      simp only [Option.map_some, Option.bind_eq_bind, Option.bind_some, hfix, Option.isNone_map]
      split
      · rfl
      · simp [Diagnostic.crlf, LineTable.position_crlf, hlength]

/-- The verdict on a member is the same, but for the places in it. -/
theorem examine_crlf (h : '\r' ∉ source) (m : Member) :
    rule.examine source.crlf (.ofText source.crlf) (m.shift source.crlfOffset) =
      (rule.examine source (.ofText source) m).crlf source := by
  unfold examine
  simp only [Member.anchor_crlf, LineTable.lineOf_crlf, LineTable.lineStart?_crlf]
  generalize hanchor : m.anchor source (.ofText source) = anchor
  obtain ⟨lineStart, hstart⟩ := LineTable.exists_lineStart? source anchor
  have hbody' : (m.shift source.crlfOffset).body? = m.body?.map (Tree.shift source.crlfOffset) := rfl
  have hstop : (m.shift source.crlfOffset).stop = source.crlfOffset m.stop := by
    simp [Member.stop, Member.shift, Span.map]
  rw [hbody', hstart, hstop, Member.isFirst_shift]
  cases hbody : m.body? with
  | none => rfl
  | some body =>
    simp only [Option.map_some, slice?_crlf, Tree.span_shift, Span.map, LineTable.lineOf_crlf]
    cases hslice : source.slice? lineStart anchor with
    | none => rfl
    | some indent =>
      simp only [Option.map_some, isBlank_crlf, LineTable.lineText?_crlf h]
      split_ifs with hblank hheader hfirst hbrace
      · rfl
      · rfl
      · rfl
      · rfl
      · -- A member below its class header is below a line feed.
        have hcount := LineTable.lineOf_le_count source anchor
        have hmem : '\n' ∈ source := List.count_pos_iff.1 (by omega)
        obtain ⟨before, after, -, -, hle⟩ := slice?_eq_some_iff.1 hslice
        simp only [Verdict.crlf, Verdict.measured.injEq, true_and]
        rw [rule.outcomeAt_crlf h]
        exact ⟨rfl, rule.diagnosticFor?_crlf h hmem hstart (by omega) ..⟩

theorem verdicts_crlf (h : '\r' ∉ source) (tree : Tree) :
    rule.verdicts source.crlf (tree.shift source.crlfOffset) =
      (rule.verdicts source tree).map (Verdict.crlf source) := by
  rw [verdicts_eq_map, verdicts_eq_map, Tree.classMembers_shift, List.map_map, List.map_map]
  exact List.map_congr_left fun m _ => rule.examine_crlf h m

/-- The complaints about a text with carriage returns are those about the text without them. -/
theorem check_crlf (h : '\r' ∉ source) (tree : Tree) :
    rule.check source.crlf (tree.shift source.crlfOffset) =
      (rule.check source tree).map (Diagnostic.crlf source) := by
  rw [check, verdicts_crlf rule h, List.filterMap_map, check, List.map_filterMap]
  congr 1
  funext v
  exact Verdict.diagnostic?_crlf source v

end Rule

end ClassSpacing
