import ClassSpacing.Proofs.Fix.Correction

/-!
# One source under different requirements

Which members of a source are checked, and what a complaint about one of them addresses, does not
depend on the requirement. The requirement only decides which of the checked members are flagged, and
all it asks about one is the number of blank lines above the line where it starts. So what is flagged
under a requirement is picked, by that number, from what is flagged where the option is no number of
lines.
-/

namespace ClassSpacing

open Text

/-! ## What a complaint addresses -/

/-- A part of a source, in bytes and as places. -/
structure Extent where
  offset : Nat
  length : Nat
  start : Position
  stop : Position
deriving Repr, DecidableEq

/-- The part of the source that a complaint is about. -/
def Diagnostic.extent (d : Diagnostic) : Extent :=
  ⟨d.offset, d.length, d.start, d.stop⟩

/-- The part of a source from the start of the line of a cut up to `stop`. -/
def Cut.extent {source : Text} (c : Cut source) (stop : Nat) : Extent where
  offset := c.above.byteLength
  length := stop - c.above.byteLength
  start := (LineTable.ofText source).position source c.above.byteLength
  stop := (LineTable.ofText source).position source stop

theorem Cut.line_extent {source : Text} (c : Cut source) (stop : Nat) :
    (c.extent stop).start.line = c.line :=
  LineTable.lineOf_of_lineStart? c.lineStart?_line

/-- The part of the source that a checked member takes up, from the start of its first line on. -/
def Member.HasExtent (source : Text) (m : Member) (x : Extent) : Prop :=
  ∃ (c : Cut source) (body : Tree), m.IsChecked source c body ∧ c.Reaches m.stop ∧
    x = c.extent m.stop

/-- There are no more blank lines above a place than the text has lines with a line feed. -/
theorem Cut.blankRun_le_count {source : Text} (c : Cut source) :
    blankRun c.above ≤ source.count '\n' :=
  calc blankRun c.above
    _ ≤ c.above.lines.reverse.length := (List.takeWhile_sublist isBlank).length_le
    _ = c.line := by rw [List.length_reverse, c.endsLine.length_lines, Cut.line]
    _ ≤ source.count '\n' := by
      rw [← c.lineOf_offset]
      exact LineTable.lineOf_le_count source c.offset

namespace Rule

variable {rule : Rule} {source : Text} {m : Member} {c : Cut source} {x : Extent}

/-- There is a complaint about every checked member whose spacing is not as required. -/
theorem exists_diagnosticFor? {stop : Nat} (hreaches : c.Reaches stop)
    (h : rule.spacing.judge (blankRun c.above) ≠ .satisfied) :
    ∃ d, rule.diagnosticFor? source (.ofText source) c.line c.above.byteLength c.offset stop
      c.indent (rule.spacing.judge (blankRun c.above)) = some d := by
  obtain ⟨text, after, hrest, hstop⟩ := hreaches
  have hslice : source.slice? c.offset stop = some text :=
    slice?_eq_some_iff.2 ⟨c.above ++ c.indent, after,
      c.source_eq.trans (by simp [hrest]), by simp [Cut.offset], hstop⟩
  have hunsatisfied : (rule.spacing.judge (blankRun c.above)).isSatisfied = false := by
    simpa [Outcome.isSatisfied] using h
  -- Where lines are missing or superfluous there is a fix, and otherwise none is needed.
  have hfix : ((fixFor? (.ofText source) c.line c.above.byteLength stop c.indent text
      (rule.spacing.judge (blankRun c.above))).isNone &&
        rule.spacing.judge (blankRun c.above) != .invalidOption) = false := by
    by_cases hinvalid : rule.spacing.judge (blankRun c.above) = .invalidOption
    · simp [hinvalid]
    · obtain ⟨top, gap, hsplits⟩ := rule.exists_splits c (by
        cases houtcome : rule.spacing.judge (blankRun c.above) with
        | satisfied => exact absurd houtcome h
        | invalidOption => exact absurd houtcome hinvalid
        | shortfall missing => exact .inl ⟨missing, rfl⟩
        | excess extra => exact .inr ⟨extra, rfl⟩)
      obtain ⟨f, hf, -⟩ := exists_fixFor? hsplits (Nat.le_of_add_right_le hstop.ge) text
      simp [hf]
  rw [diagnosticFor?, hunsatisfied, hslice]
  simp only [Option.bind_eq_bind, Option.bind_some, hfix]
  exact ⟨_, rfl⟩

/-- A complaint about a checked member addresses the extent of the member. -/
theorem extent_of_diagnosticFor? {stop : Nat} {outcome : Outcome} {d : Diagnostic}
    (h : rule.diagnosticFor? source (.ofText source) c.line c.above.byteLength c.offset stop
      c.indent outcome = some d) : d.extent = c.extent stop := by
  obtain ⟨-, text, -, -, rfl⟩ := rule.eq_of_diagnosticFor? h
  rfl

/-- A member is flagged exactly if it is checked and the blank lines above it are not as many as are
    required. -/
theorem extent_diagnostic?_eq_some_iff :
    (rule.examine source (.ofText source) m).diagnostic?.map Diagnostic.extent = some x ↔
      m.HasExtent source x ∧
        rule.spacing.judge (source.blankLinesAbove x.start.line) ≠ .satisfied := by
  constructor
  · intro h
    obtain ⟨d, hd, rfl⟩ := Option.map_eq_some_iff.1 h
    obtain ⟨c, text, hflags⟩ := rule.exists_flags_of_diagnostic? hd
    obtain ⟨body, hchecked⟩ := hflags.isChecked
    obtain ⟨after, hrest⟩ := hflags.rest_eq
    rw [rule.examine_of_isChecked hchecked] at hd
    have hextent := extent_of_diagnosticFor? hd
    refine ⟨⟨c, body, hchecked, ⟨text, after, hrest, hflags.stop_eq⟩, hextent⟩, ?_⟩
    rw [hextent, c.line_extent, c.blankLinesAbove_line]
    exact hflags.unsatisfied
  · rintro ⟨⟨c, body, hchecked, hreaches, rfl⟩, hunsatisfied⟩
    rw [c.line_extent, c.blankLinesAbove_line] at hunsatisfied
    obtain ⟨d, hd⟩ := exists_diagnosticFor? hreaches hunsatisfied
    rw [rule.examine_of_isChecked hchecked, Verdict.diagnostic?, hd, Option.map_some,
      extent_of_diagnosticFor? hd]

/-! ## What is flagged in a source -/

/-- The parts of a source that the complaints are about. -/
def extents (rule : Rule) (source : Text) (tree : Tree) : List Extent :=
  (rule.check source tree).map Diagnostic.extent

theorem mem_extents {tree : Tree} :
    x ∈ rule.extents source tree ↔
      (∃ m ∈ tree.members source, m.container = .classBody ∧ m.HasExtent source x) ∧
        rule.spacing.judge (source.blankLinesAbove x.start.line) ≠ .satisfied := by
  simp only [extents, List.mem_map, mem_check]
  constructor
  · rintro ⟨d, ⟨m, hm, hclass, hd⟩, rfl⟩
    obtain ⟨hextent, hunsatisfied⟩ :=
      extent_diagnostic?_eq_some_iff.1 (congrArg (Option.map Diagnostic.extent) hd)
    exact ⟨⟨m, hm, hclass, hextent⟩, hunsatisfied⟩
  · rintro ⟨⟨m, hm, hclass, hextent⟩, hunsatisfied⟩
    obtain ⟨d, hd, hx⟩ := Option.map_eq_some_iff.1
      (extent_diagnostic?_eq_some_iff.2 ⟨hextent, hunsatisfied⟩)
    exact ⟨d, ⟨m, hm, hclass, hd⟩, hx⟩

/-- What is flagged under a requirement is picked from what is flagged without one. -/
theorem extents_eq_filter (rule : Rule) {free : Rule} {value : String}
    (hfree : free.spacing = .invalid value) (source : Text) (tree : Tree) :
    rule.extents source tree = (free.extents source tree).filter fun x =>
      !(rule.spacing.judge (source.blankLinesAbove x.start.line)).isSatisfied := by
  simp only [extents, check, verdicts, List.filterMap_map, List.map_filterMap,
    List.filter_filterMap]
  refine List.filterMap_congr fun m _ => Option.ext fun x => ?_
  simp only [Function.comp_apply, Option.filter_eq_some_iff]
  rw [extent_diagnostic?_eq_some_iff, extent_diagnostic?_eq_some_iff, hfree]
  simp [Spacing.judge, Outcome.isSatisfied]

/-- What is flagged in a source under each requirement. -/
structure FlaggedByCount (source : Text) (tree : Tree) (flagged : Spacing → List Extent) : Prop where
  /-- Where the option is no number of lines, all checked members are flagged. -/
  mem_invalid_iff : ∀ value x, x ∈ flagged (.invalid value) ↔
    ∃ m ∈ tree.members source, m.container = .classBody ∧ m.HasExtent source x
  sublist_invalid : ∀ spacing value, (flagged spacing).Sublist (flagged (.invalid value))
  /-- A checked member is not flagged for exactly one number of lines, and the text has as many. -/
  exists_unique_count : ∀ value, ∀ x ∈ flagged (.invalid value),
    ∃ count ≤ source.count '\n', ∀ lines, x ∉ flagged (.exactly lines) ↔ lines = count
  mem_atLeastOne_iff : ∀ value, ∀ x ∈ flagged (.invalid value),
    x ∈ flagged .atLeastOne ↔ x ∉ flagged (.exactly 0)
  clean_of_exactly : ∀ lines, 1 ≤ lines → flagged (.exactly lines) = [] → flagged .atLeastOne = []

/-- The severity of a rule does not decide what is flagged. -/
theorem extents_eq_of_spacing (rule : Rule) (source : Text) (tree : Tree) :
    rule.extents source tree = Rule.extents { spacing := rule.spacing } source tree := by
  have hfree : (Rule.mk (.invalid "") .error).spacing = .invalid "" := rfl
  rw [extents_eq_filter rule hfree, extents_eq_filter { spacing := rule.spacing } hfree]

section

variable {tree : Tree} {value : String}

theorem mem_extents_invalid : x ∈ Rule.extents { spacing := .invalid value } source tree ↔
    ∃ m ∈ tree.members source, m.container = .classBody ∧ m.HasExtent source x := by
  rw [mem_extents]
  exact and_iff_left (by simp [Spacing.judge])

theorem extents_sublist_invalid (spacing : Spacing) (source : Text) (tree : Tree)
    (value : String) : (Rule.extents { spacing } source tree).Sublist
      (Rule.extents { spacing := .invalid value } source tree) := by
  have hfree : (Rule.mk (.invalid value) .error).spacing = .invalid value := rfl
  rw [extents_eq_filter { spacing } hfree]
  exact List.filter_sublist

/-- Once a member is checked, only the number of blank lines above it counts. -/
theorem mem_extents_iff_not_admits
    (hx : x ∈ Rule.extents { spacing := .invalid value } source tree) (spacing : Spacing) :
    x ∈ Rule.extents { spacing } source tree ↔
      ¬ spacing.Admits (source.blankLinesAbove x.start.line) := by
  rw [mem_extents, ← Spacing.judge_eq_satisfied_iff]
  exact and_iff_right (mem_extents_invalid.1 hx)

theorem flaggedByCount_extents (source : Text) (tree : Tree) :
    FlaggedByCount source tree fun spacing => Rule.extents { spacing } source tree := by
  refine ⟨fun value x => mem_extents_invalid, fun spacing value =>
    extents_sublist_invalid spacing source tree value, ?_, ?_, ?_⟩
  · intro value x hx
    refine ⟨source.blankLinesAbove x.start.line, ?_, fun lines => ?_⟩
    · obtain ⟨m, -, -, c, body, -, -, rfl⟩ := mem_extents_invalid.1 hx
      rw [c.line_extent, c.blankLinesAbove_line]
      exact c.blankRun_le_count
    · rw [mem_extents_iff_not_admits hx, not_not, Spacing.Admits, eq_comm]
  · intro value x hx
    rw [mem_extents_iff_not_admits hx, mem_extents_iff_not_admits hx, not_not, Spacing.Admits,
      Spacing.Admits]
    exact Nat.pos_iff_ne_zero.not_left
  · intro lines hpos hclean
    refine List.eq_nil_iff_forall_not_mem.2 fun x hx => ?_
    have hchecked := (extents_sublist_invalid .atLeastOne source tree "").subset hx
    have hnone := (mem_extents_iff_not_admits hchecked .atLeastOne).1 hx
    have hcount : source.blankLinesAbove x.start.line = lines := by
      by_contra hne
      have hmem := (mem_extents_iff_not_admits hchecked (.exactly lines)).2 hne
      rw [hclean] at hmem
      cases hmem
    exact hnone (hcount ▸ hpos)

end

/-- The requirement decides only by the number of blank lines which of the checked members of a source
    are flagged. There is nothing to check in the empty source, whatever is required. -/
theorem lint_flags_by_count (read : Reader) (dialect : Dialect) (source : Text) :
    (source = [] ∧ ∀ rule : Rule, rule.lint read dialect source = .error .emptySource) ∨
      ∃ flagged : Spacing → List Extent,
        (∀ rule : Rule, ∃ diagnostics, rule.lint read dialect source = .ok diagnostics ∧
          diagnostics.map Diagnostic.extent = flagged rule.spacing) ∧
        FlaggedByCount source (read dialect source) flagged := by
  by_cases hsource : source = []
  · subst hsource
    exact .inl ⟨rfl, fun rule => rfl⟩
  · refine .inr ⟨fun spacing => Rule.extents { spacing } source (read dialect source),
      fun rule => ⟨_, lint_eq_ok_iff.2 ⟨hsource, rfl⟩, ?_⟩,
      flaggedByCount_extents source (read dialect source)⟩
    exact extents_eq_of_spacing rule source (read dialect source)

end Rule

/-! ## Members with none and with two blank lines above -/

namespace Uneven

def source : Text :=
  "class A \x7b\n  a() \x7b\x7d\n  b() \x7b\x7d\n\n\n  c() \x7b\x7d\n\x7d".toList

def tree : Tree :=
  .onLetters .program 0 22 [.classOn 0 22 [.methodOn 7 11 [], .methodOn 12 16 [], .methodOn 17 21 []]]

def read : Reader := .ofLetters "classA\x7ba()\x7b\x7db()\x7b\x7dc()\x7b\x7d\x7d".toList tree

/-- The second member, with no blank line above it. -/
def second : Extent := ⟨19, 8, ⟨2, 0, 19⟩, ⟨2, 8, 27⟩⟩

/-- The third member, with two blank lines above it. -/
def third : Extent := ⟨30, 8, ⟨5, 0, 30⟩, ⟨5, 8, 38⟩⟩

theorem lint_flags_by_count_uneven :
    ∃ flagged : Spacing → List Extent,
      (∀ rule : Rule, ∃ diagnostics, rule.lint read .typeScript source = .ok diagnostics ∧
        diagnostics.map Diagnostic.extent = flagged rule.spacing) ∧
      flagged (.invalid "two") = [second, third] ∧ flagged .atLeastOne = [second] ∧
      flagged (.exactly 0) = [third] ∧ ∀ lines, third ∉ flagged (.exactly lines) ↔ lines = 2 := by
  rcases Rule.lint_flags_by_count read .typeScript source with ⟨hnil, -⟩ | ⟨flagged, hlint, hcount⟩
  · cases hnil
  · have hflagged : ∀ spacing, flagged spacing =
        Rule.extents { spacing } source (read .typeScript source) := by
      intro spacing
      obtain ⟨diagnostics, hok, hmap⟩ := hlint { spacing }
      obtain ⟨-, rfl⟩ := Rule.lint_eq_ok_iff.1 hok
      exact hmap.symm
    have hinvalid : flagged (.invalid "two") = [second, third] := by
      rw [hflagged]
      decide +kernel
    have hzero : flagged (.exactly 0) = [third] := by
      rw [hflagged]
      decide +kernel
    have htwo : third ∉ flagged (.exactly 2) := by
      rw [hflagged]
      decide +kernel
    refine ⟨flagged, hlint, hinvalid, ?_, hzero, ?_⟩
    · rw [hflagged]
      decide +kernel
    · obtain ⟨count, -, hiff⟩ := hcount.exists_unique_count "two" third (by simp [hinvalid])
      obtain rfl : 2 = count := (hiff 2).1 htwo
      exact hiff

end Uneven

end ClassSpacing
