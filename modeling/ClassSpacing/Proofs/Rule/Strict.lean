import ClassSpacing.Proofs.Fix.Substitution
import ClassSpacing.Proofs.Rule.Standing
import ClassSpacing.Strict

/-!
# What can go wrong, for any tree

Strict evaluation of the rule comes to the same complaints as evaluation on every source with every
tree: the spans of the tree may be inverted, leave the text or cut characters in two. No difference
is negative and no lookup fails. It stops only where a fix would put in more line terminators than
there is room for, which takes a requirement of about as many lines as a machine has addresses.

The complaints address the text: each starts a line and ends at a character boundary, and where
there is a requirement it has a fix that rewrites the flagged text behind some line terminators.
-/

namespace ClassSpacing

open Text

theorem Text.byteLength_repeated (t : Text) (count : Nat) :
    (t.repeated count).byteLength = count * t.byteLength := by
  induction count with
  | zero => simp [repeated]
  | succ count ih =>
    have hcons : t.repeated (count + 1) = t ++ t.repeated count := by
      simp [repeated, List.replicate_succ]
    rw [hcons, byteLength_append, ih, Nat.succ_mul, Nat.add_comm]

/-- A fix writes no more bytes than can be addressed. -/
def Fix.Fits (f : Fix) : Prop :=
  f.replacement.byteLength ≤ Strict.capacity

/-- A complaint has no fix, or one that fits. -/
def Diagnostic.Fits (d : Diagnostic) : Prop :=
  ∀ f ∈ d.fix?, f.Fits

namespace Strict

/-! ## Strict operations -/

theorem sub_eq {a b : Nat} (h : b ≤ a) : sub a b = .ok (a - b) := if_pos h

theorem item_eq {xs : List Nat} {place x : Nat} (h : xs[place]? = some x) :
    item xs place = .ok x := by
  rw [item, h]

@[simp]
theorem ok_bind {α β : Type} (a : α) (f : α → Except Halt β) : Except.ok a >>= f = f a := rfl

/-- An evaluation comes to a result if that fits, and stops for lack of room if it does not. -/
def Agrees {α : Type} (x : Except Halt α) (result : α) (fits : Prop) : Prop :=
  (fits ∧ x = .ok result) ∨ (¬fits ∧ ∃ bytes, x = .error (.capacity bytes) ∧ capacity < bytes)

namespace Agrees

variable {α β : Type} {x : Except Halt α} {result : α} {next : β} {fits fits' : Prop}

theorem of_ok (h : fits) : Agrees (.ok result) result fits :=
  .inl ⟨h, rfl⟩

theorem congr (h : Agrees x result fits) (hfits : fits ↔ fits') : Agrees x result fits' :=
  propext hfits ▸ h

theorem bind {f : α → Except Halt β} (h : Agrees x result fits)
    (hnext : fits → Agrees (f result) next fits') (hfits : fits' → fits) :
    Agrees (x >>= f) next fits' := by
  rcases h with ⟨hfit, rfl⟩ | ⟨hfit, bytes, rfl, hlarge⟩
  · exact hnext hfit
  · exact .inr ⟨fun h => hfit (hfits h), bytes, rfl, hlarge⟩

theorem mapM {f : β → Except Halt α} {g : β → α} {fit : β → Prop} {items : List β}
    (h : ∀ b ∈ items, Agrees (f b) (g b) (fit b)) :
    Agrees (items.mapM f) (items.map g) (∀ b ∈ items, fit b) := by
  induction items with
  | nil => exact .of_ok (by simp)
  | cons b rest ih =>
    rw [List.forall_mem_cons] at h
    rw [List.mapM_cons, List.map_cons]
    refine h.1.bind (fun hb => ?_) fun hall => hall b List.mem_cons_self
    refine (ih h.2).bind (fun hrest => ?_) fun hall => (List.forall_mem_cons.1 hall).2
    exact .of_ok (List.forall_mem_cons.2 ⟨hb, hrest⟩)

end Agrees

theorem repeated_agrees (t : Text) (count : Nat) :
    Agrees (repeated t count) (t.repeated count) ((t.repeated count).byteLength ≤ capacity) := by
  rw [byteLength_repeated, repeated]
  split
  · next hle => exact .of_ok hle
  · next hle => exact .inr ⟨hle, _, rfl, Nat.not_le.1 hle⟩

theorem append_agrees (s t : Text) :
    Agrees (append s t) (s ++ t) ((s ++ t).byteLength ≤ capacity) := by
  rw [byteLength_append, append]
  split
  · next hle => exact .of_ok hle
  · next hle => exact .inr ⟨hle, _, rfl, Nat.not_le.1 hle⟩

/-! ## Strict evaluation succeeds where texts have room -/

section

variable (source : Text)

theorem lineOf_eq (offset : Nat) :
    lineOf (.ofText source) offset = .ok ((LineTable.ofText source).lineOf offset) := by
  refine sub_eq (List.countP_pos_iff.2 ⟨0, ?_, ?_⟩)
  · exact List.mem_cons_self ..
  · simp

example : lineOf ⟨[5], false⟩ 3 = .error (.underflow 0 1) := by decide

theorem lineText?_eq (line : Nat) :
    lineText? (.ofText source) source line =
      .ok ((LineTable.ofText source).lineText? source line) := by
  unfold lineText? LineTable.lineText?
  cases hstart : (LineTable.ofText source).lineStart? line with
  | none => rfl
  | some start =>
    cases hnext : (LineTable.ofText source).lineStart? (line + 1) with
    | none =>
      simp only [pure_bind, Option.bind_eq_bind, Option.bind_some, Option.map_eq_bind]
      rfl
    | some next =>
      -- A line below another one does not start at the start of the text.
      have hpos : 1 ≤ next := by
        obtain ⟨above, rest, -, -, hcount, rfl⟩ := LineTable.lineStart?_eq_some_iff.1 hnext
        refine byteLength_pos fun hnil => ?_
        simp [hnil] at hcount
      simp only [sub_eq hpos, ok_bind, Option.bind_eq_bind, Option.bind_some, Option.map_eq_bind]
      rfl

theorem position_eq (offset : Nat) :
    position (.ofText source) source offset =
      .ok ((LineTable.ofText source).position source offset) := by
  obtain ⟨start, hstart⟩ := LineTable.exists_lineStart? source offset
  simp only [position, lineOf_eq, ok_bind, item_eq hstart,
    sub_eq (LineTable.le_of_lineStart?_lineOf hstart), LineTable.position, hstart, Option.getD_some]
  cases source.slice? start offset <;> rfl

theorem startsLine_eq (offset : Nat) :
    startsLine source (.ofText source) offset =
      .ok (ClassSpacing.startsLine source (.ofText source) offset) := by
  simp only [startsLine, lineOf_eq, ok_bind, ClassSpacing.startsLine]
  cases (LineTable.ofText source).lineStart? ((LineTable.ofText source).lineOf offset) with
  | none => rfl
  | some lineStart =>
    simp only [Option.any_some]
    cases source.slice? lineStart offset <;> rfl

theorem attachedStart_eq (below : Nat) (above : List Tree) :
    attachedStart source (.ofText source) below above =
      .ok (ClassSpacing.attachedStart source (.ofText source) below above) := by
  induction above generalizing below with
  | nil => rfl
  | cons t rest ih =>
    simp only [attachedStart, lineOf_eq, startsLine_eq, ih, ok_bind]
    rw [ClassSpacing.attachedStart, attaches]
    cases t.kind == .comment with
    | false => rfl
    | true =>
      by_cases hbelow : below ≤ (LineTable.ofText source).lineOf t.span.stop + 1
      · rw [if_pos rfl, if_pos hbelow, decide_eq_true hbelow]
        cases ClassSpacing.startsLine source (.ofText source) t.span.start <;> rfl
      · rw [if_pos rfl, if_neg hbelow, decide_eq_false hbelow]
        rfl

theorem anchor_eq (m : Member) :
    anchor source (.ofText source) m = .ok (m.anchor source (.ofText source)) := by
  simp only [anchor, lineOf_eq, attachedStart_eq, ok_bind]
  rfl

theorem blankAbove_eq (line distance : Nat) :
    blankAbove source (.ofText source) line distance =
      .ok (Rule.blankAbove source (.ofText source) line distance) := by
  unfold blankAbove Rule.blankAbove
  split
  · rename_i hle
    simp only [sub_eq hle, lineText?_eq, ok_bind]
    cases (LineTable.ofText source).lineText? source (line - distance) <;> rfl
  · rfl

end

theorem compare_eq (required present : Nat) :
    compare required present = .ok (Spacing.compare required present) := by
  unfold compare Spacing.compare
  split
  · rename_i hlt
    rw [sub_eq (Nat.le_of_lt hlt)]
    rfl
  · split
    · rename_i hgt
      rw [sub_eq (Nat.le_of_lt hgt)]
      rfl
    · rfl

/-- Counting succeeds where each question is answered. -/
theorem countBlank_eq {ask : Nat → Except Halt Bool} {answer : Nat → Bool}
    (h : ∀ distance, ask distance = .ok (answer distance)) (limit distance : Nat) :
    Spacing.countBlank ask limit distance =
      .ok (Id.run (Spacing.countBlank (fun d => pure (answer d)) limit distance)) := by
  induction limit generalizing distance with
  | zero => rfl
  | succ limit ih =>
    simp only [Spacing.countBlank, h, ih, ok_bind, pure_bind]
    cases answer distance <;> rfl

theorem outcomeAt_eq (rule : Rule) (source : Text) (line : Nat) :
    outcomeAt rule source (.ofText source) line =
      .ok (rule.outcomeAt source (.ofText source) line) := by
  unfold outcomeAt Rule.outcomeAt Spacing.measure
  cases rule.spacing with
  | invalid value => rfl
  | atLeastOne =>
    simp only [blankAbove_eq, ok_bind, pure_bind]
    cases Rule.blankAbove source (.ofText source) line 1 <;> rfl
  | exactly required =>
    simp only [countBlank_eq (blankAbove_eq source line), compare_eq, ok_bind]
    rfl

section

variable {source : Text} {line lineStart anchor stop : Nat}

theorem fixFor?_agrees (indent text : Text)
    (hstart : (LineTable.ofText source).lineStart? line = some lineStart)
    (hle : lineStart ≤ stop) (outcome : Outcome) :
    Agrees (fixFor? (.ofText source) line lineStart stop indent text outcome)
      (Rule.fixFor? (.ofText source) line lineStart stop indent text outcome)
      (∀ f ∈ Rule.fixFor? (.ofText source) line lineStart stop indent text outcome, f.Fits) := by
  cases outcome with
  | satisfied => exact .of_ok (by simp [Rule.fixFor?])
  | invalidOption => exact .of_ok (by simp [Rule.fixFor?])
  | shortfall missing =>
    simp only [fixFor?, sub_eq hle, ok_bind, Rule.fixFor?, Option.mem_some, forall_eq', Fix.Fits]
    refine (repeated_agrees _ missing).bind (fun _ => ?_) ?_
    · refine (append_agrees _ indent).bind (fun _ => ?_) ?_
      · exact (append_agrees _ text).bind (fun hfits => .of_ok hfits) id
      · simp only [byteLength_append]
        omega
    · simp only [byteLength_append]
      omega
  | excess extra =>
    unfold fixFor? Rule.fixFor?
    by_cases hextra : extra ≤ line
    · simp only [if_pos hextra, sub_eq hextra, ok_bind]
      cases hfirst : (LineTable.ofText source).lineStart? (line - extra) with
      | none => exact .of_ok (by simp)
      | some start =>
        have hbefore := LineTable.le_of_lineStart? (Nat.sub_le line extra) hfirst hstart
        simp only [sub_eq (Nat.le_trans hbefore hle), ok_bind, Option.map_some, Option.mem_some,
          forall_eq', Fix.Fits]
        exact (append_agrees indent text).bind (fun hfits => .of_ok hfits) id
    · simp only [if_neg hextra]
      exact .of_ok (by simp)

theorem diagnosticFor?_agrees (rule : Rule) (stop : Nat) (indent : Text)
    (hstart : (LineTable.ofText source).lineStart? line = some lineStart)
    (hle : lineStart ≤ anchor) (outcome : Outcome) :
    Agrees (diagnosticFor? rule source (.ofText source) line lineStart anchor stop indent outcome)
      (rule.diagnosticFor? source (.ofText source) line lineStart anchor stop indent outcome)
      (∀ d ∈ rule.diagnosticFor? source (.ofText source) line lineStart anchor stop indent outcome,
        d.Fits) := by
  unfold diagnosticFor? Rule.diagnosticFor?
  cases outcome.isSatisfied with
  | true => exact .of_ok (by simp)
  | false =>
    cases hslice : source.slice? anchor stop with
    | none => exact .of_ok (by simp)
    | some text =>
      -- The slice shows that the member does not end before its anchor.
      obtain ⟨-, -, -, -, hstop⟩ := slice?_eq_some_iff.1 hslice
      have hend : lineStart ≤ stop := by omega
      have hfix := fixFor?_agrees indent text hstart hend outcome
      simp only [Bool.false_eq_true, if_false, Option.bind_eq_bind, Option.bind_some]
      generalize Rule.fixFor? (.ofText source) line lineStart stop indent text outcome = fix?
        at hfix ⊢
      refine hfix.bind (fun hfits => ?_) ?_
      · cases fix?.isNone && outcome != .invalidOption with
        | true => exact .of_ok (by simp)
        | false =>
          simp only [Bool.false_eq_true, if_false, sub_eq hend, position_eq, ok_bind]
          exact .of_ok (by simpa [Diagnostic.Fits] using hfits)
      · cases fix? with
        | none => simp
        | some f => simp [Diagnostic.Fits]

end

/-- A verdict without a complaint takes no room. -/
theorem agrees_of_silent {verdict : Verdict} (h : verdict.diagnostic? = none) :
    Agrees (.ok verdict) verdict (∀ d ∈ verdict.diagnostic?, d.Fits) :=
  .of_ok (by simp [h])

theorem examine_agrees (rule : Rule) (source : Text) (m : Member) :
    Agrees (examine rule source (.ofText source) m) (rule.examine source (.ofText source) m)
      (∀ d ∈ (rule.examine source (.ofText source) m).diagnostic?, d.Fits) := by
  obtain ⟨lineStart, hstart⟩ := LineTable.exists_lineStart? source
    (m.anchor source (.ofText source))
  have hle := LineTable.le_of_lineStart?_lineOf hstart
  unfold examine Rule.examine
  simp only [anchor_eq, lineOf_eq, ok_bind, hstart]
  generalize m.anchor source (.ofText source) = anchor at hstart hle ⊢
  generalize (LineTable.ofText source).lineOf anchor = line at hstart ⊢
  cases m.body? with
  | none => exact agrees_of_silent rfl
  | some body =>
    dsimp only
    cases source.slice? lineStart anchor with
    | none => exact agrees_of_silent rfl
    | some indent =>
      simp only [outcomeAt_eq, ok_bind]
      cases indent.isBlank with
      | false => exact agrees_of_silent rfl
      | true =>
        by_cases hheader : line ≤ (LineTable.ofText source).lineOf body.span.start
        · simp only [if_pos hheader]
          exact agrees_of_silent rfl
        · -- There is a line above one that is below another.
          have hpos : 1 ≤ line := by omega
          simp only [if_neg hheader, sub_eq hpos, lineText?_eq, ok_bind]
          cases line - 1 == (LineTable.ofText source).lineOf body.span.start && m.isFirst with
          | true => exact agrees_of_silent rfl
          | false =>
            cases ((LineTable.ofText source).lineText? source (line - 1)).any
              Text.isOpeningBraceLine with
            | true => exact agrees_of_silent rfl
            | false =>
              have hdiagnostic := diagnosticFor?_agrees rule m.stop indent hstart hle
                (rule.outcomeAt source (.ofText source) line)
              exact hdiagnostic.bind (fun hfits => .of_ok hfits) id

theorem check_agrees (rule : Rule) (source : Text) (tree : Tree) :
    Agrees (check rule source tree) (rule.check source tree)
      (∀ d ∈ rule.check source tree, d.Fits) := by
  have hmembers := Agrees.mapM fun m
    (_ : m ∈ (tree.members source).filter (·.container == .classBody)) =>
      examine_agrees rule source m
  have hcheck : Agrees (check rule source tree) (rule.check source tree) _ :=
    hmembers.bind (fun hfits => .of_ok hfits) id
  refine hcheck.congr ⟨fun hfits d hd => ?_, fun hfits m hm d hd => ?_⟩
  · obtain ⟨m, hm, hclass, hdiagnostic⟩ := rule.mem_check.1 hd
    exact hfits m (List.mem_filter.2 ⟨hm, by simp [hclass]⟩) d hdiagnostic
  · obtain ⟨hm, hclass⟩ := List.mem_filter.1 hm
    exact hfits d (rule.mem_check.2 ⟨m, hm, by simpa using hclass, hd⟩)

end Strict

/-! ## What the complaints address -/

/-- A fix writes the text that a complaint flags behind some line terminators, in place of blank
    lines. -/
structure Diagnostic.IsRewrittenBy (source : Text) (d : Diagnostic) (text : Text) (f : Fix) :
    Prop where
  stop_eq : f.stop = d.offset + d.length
  offset_le : f.offset ≤ d.offset
  offset_mem : f.offset ∈ (LineTable.ofText source).starts
  isWithin : f.IsWithin source
  isBlank_before : ∃ gap, source.slice? f.offset d.offset = some gap ∧ gap.isBlank = true
  replacement_eq :
    ∃ count, f.replacement = (LineTable.ofText source).newline.repeated count ++ text

/-- A complaint of a rule is about a part of the source. -/
structure Rule.Addresses (rule : Rule) (source : Text) (d : Diagnostic) : Prop where
  offset_mem : d.offset ∈ (LineTable.ofText source).starts
  start_eq : d.start = (LineTable.ofText source).position source d.offset
  stop_eq : d.stop = (LineTable.ofText source).position source (d.offset + d.length)
  fix?_eq_none_iff : d.fix? = none ↔ ∃ value, rule.spacing = .invalid value
  snippet?_eq : ∃ text, d.snippet? source = some text ∧ ∀ f ∈ d.fix?, d.IsRewrittenBy source text f

theorem LineTable.mem_starts_of_append {above rest : Text} (h : above.EndsLine) :
    above.byteLength ∈ (LineTable.ofText (above ++ rest)).starts :=
  List.mem_of_getElem? (LineTable.lineStart?_count h rest)

/-- The most lines that a fix puts in to come to a required spacing. -/
def Spacing.demand : Spacing → Nat
  | atLeastOne => 1
  | exactly required => required
  | invalid _ => 0

theorem Spacing.le_demand_of_judge {spacing : Spacing} {present missing : Nat}
    (h : spacing.judge present = .shortfall missing) : missing ≤ spacing.demand := by
  have hadmits := (judge_add_of_shortfall h).2
  cases spacing with
  | atLeastOne =>
    rw [judge] at h
    split at h
    · cases h
    · exact (Outcome.shortfall.inj h).ge
  | exactly required =>
    have hsum := judge_eq_satisfied_iff.1 hadmits
    exact Nat.le.intro ((Nat.add_comm _ _).trans hsum)
  | invalid value => cases h

namespace Rule

variable {rule : Rule} {source : Text} {m : Member} {d : Diagnostic} {c : Cut source} {text : Text}

/-- The places that a complaint names are those of its ends. -/
theorem positions_of_diagnostic?
    (h : (rule.examine source (.ofText source) m).diagnostic? = some d) :
    d.start = (LineTable.ofText source).position source d.offset ∧
      d.stop = (LineTable.ofText source).position source m.stop := by
  obtain ⟨c, body, hchecked⟩ := rule.exists_isChecked_of_diagnostic? h
  rw [rule.examine_of_isChecked hchecked] at h
  obtain ⟨-, text, -, -, rfl⟩ := rule.eq_of_diagnosticFor? h
  exact ⟨rfl, rfl⟩

/-- A complaint has no fix exactly if there is no requirement. -/
theorem fix?_eq_none_iff (h : (rule.examine source (.ofText source) m).diagnostic? = some d) :
    d.fix? = none ↔ ∃ value, rule.spacing = .invalid value := by
  constructor
  · intro hnone
    by_contra hvalid
    have hsome := isSome_fix?_of_diagnostic?
      (fun present => mt Spacing.judge_eq_invalidOption_iff.1 hvalid) h
    simp [hnone] at hsome
  · rintro ⟨value, hvalue⟩
    obtain ⟨c, text, hflags⟩ := rule.exists_flags_of_diagnostic? h
    refine Option.eq_none_iff_forall_not_mem.2 fun f hf => ?_
    have hmends := hflags.mends f hf
    rw [hvalue, Spacing.judge] at hmends
    cases hmends

/-- The fix of a complaint rewrites the flagged text. -/
theorem Flags.isRewrittenBy (h : rule.Flags m d c text) {f : Fix} (hf : f ∈ d.fix?) :
    d.IsRewrittenBy source (c.indent ++ text) f := by
  obtain ⟨after, hrest⟩ := h.rest_eq
  obtain ⟨top, gap, new, hexchange, hnew⟩ := (h.mends f hf).exists_exchanges
  have hsource := hexchange.source_eq hrest
  have hoffset : d.offset = top.byteLength + gap.byteLength := by
    rw [h.offset_eq, hexchange.above_eq, byteLength_append]
  refine ⟨?_, ?_, ?_, ?_, ?_, ?_⟩
  · rw [Fix.stop, hexchange.offset_eq, hexchange.length_eq, hoffset, h.length_eq]
    simp only [byteLength_append]
    omega
  · rw [hexchange.offset_eq, hoffset]
    exact Nat.le_add_right ..
  · rw [hexchange.offset_eq, hsource]
    exact LineTable.mem_starts_of_append hexchange.endsLine_top
  · exact Fix.isWithin_iff_isPlaced.2
      ⟨top, gap ++ (c.indent ++ text), after, hsource, hexchange.offset_eq, hexchange.length_eq⟩
  · refine ⟨gap, slice?_eq_some_iff.2 ⟨top, (c.indent ++ text) ++ after, ?_, ?_, ?_⟩,
      hexchange.isBlank_gap⟩
    · simpa using hsource
    · exact hexchange.offset_eq.symm
    · rw [hoffset, hexchange.offset_eq]
  · rcases hnew with ⟨missing, -, -, rfl⟩ | ⟨-, rfl⟩
    · exact ⟨missing, hexchange.replacement_eq⟩
    · exact ⟨0, hexchange.replacement_eq⟩

theorem addresses_of_diagnostic?
    (h : (rule.examine source (.ofText source) m).diagnostic? = some d) :
    rule.Addresses source d := by
  obtain ⟨c, text, hflags⟩ := rule.exists_flags_of_diagnostic? h
  obtain ⟨hstart, hstop⟩ := positions_of_diagnostic? h
  refine ⟨?_, hstart, ?_, fix?_eq_none_iff h, c.indent ++ text, hflags.snippet?_eq,
    fun f => hflags.isRewrittenBy⟩
  · rw [hflags.offset_eq]
    exact List.mem_of_getElem? c.lineStart?_line
  · rw [hstop, hflags.stop_eq, hflags.offset_eq, hflags.length_eq, Cut.offset, byteLength_append,
      Nat.add_assoc]

/-- A fix writes no more than the required lines and the flagged text. -/
theorem byteLength_replacement_le
    (h : (rule.examine source (.ofText source) m).diagnostic? = some d) {f : Fix} (hf : f ∈ d.fix?) :
    f.replacement.byteLength ≤
      rule.spacing.demand * (LineTable.ofText source).newline.byteLength + source.byteLength := by
  obtain ⟨c, text, hflags⟩ := rule.exists_flags_of_diagnostic? h
  obtain ⟨after, hrest⟩ := hflags.rest_eq
  obtain ⟨top, gap, new, hexchange, hnew⟩ := (hflags.mends f hf).exists_exchanges
  have hsource := congrArg byteLength (hexchange.source_eq hrest)
  rw [hexchange.replacement_eq]
  simp only [byteLength_append] at hsource ⊢
  have hinserted : new.byteLength ≤
      rule.spacing.demand * (LineTable.ofText source).newline.byteLength := by
    rcases hnew with ⟨missing, houtcome, -, rfl⟩ | ⟨-, rfl⟩
    · rw [byteLength_repeated]
      exact Nat.mul_le_mul_right _ (Spacing.le_demand_of_judge houtcome)
    · exact Nat.zero_le _
  omega

/-- Whatever the tree is, strict evaluation comes to the complaints of the rule exactly if all their
    fixes fit. If it stops, there is no room for a text: no difference is negative and no lookup
    fails. It does not stop where there is room for the source and the required lines. In any case
    each complaint is about a part of the source. -/
theorem check_is_safe_iff_fits (rule : Rule) (source : Text) (tree : Tree) :
    (Strict.check rule source tree = .ok (rule.check source tree) ↔
      ∀ d ∈ rule.check source tree, d.Fits) ∧
    (∀ halt, Strict.check rule source tree = .error halt →
      ∃ bytes, halt = .capacity bytes ∧ Strict.capacity < bytes) ∧
    (rule.spacing.demand * (LineTable.ofText source).newline.byteLength + source.byteLength ≤
        Strict.capacity →
      Strict.check rule source tree = .ok (rule.check source tree)) ∧
    ∀ d ∈ rule.check source tree, rule.Addresses source d := by
  have hagrees := Strict.check_agrees rule source tree
  have hiff : Strict.check rule source tree = .ok (rule.check source tree) ↔
      ∀ d ∈ rule.check source tree, d.Fits := by
    rcases hagrees with ⟨hfits, hok⟩ | ⟨hfits, bytes, herror, -⟩
    · exact iff_of_true hok hfits
    · refine iff_of_false (fun hok => ?_) hfits
      rw [herror] at hok
      cases hok
  refine ⟨hiff, fun halt hhalt => ?_, fun hroom => hiff.2 fun d hd f hf => ?_, fun d hd => ?_⟩
  · rcases hagrees with ⟨-, hok⟩ | ⟨-, bytes, herror, hlarge⟩
    · rw [hok] at hhalt
      cases hhalt
    · exact ⟨bytes, Except.error.inj (hhalt.symm.trans herror), hlarge⟩
  · obtain ⟨m, -, -, hdiagnostic⟩ := rule.mem_check.1 hd
    exact Nat.le_trans (byteLength_replacement_le hdiagnostic hf) hroom
  · obtain ⟨m, -, -, hdiagnostic⟩ := rule.mem_check.1 hd
    exact addresses_of_diagnostic? hdiagnostic

end Rule

/-! ## A tree that is out of place -/

namespace Misplaced

def source : Text :=
  "class A \x7b\n  a() \x7b\x7d\n  b() \x7b\x7d\n\x7d".toList

/-- The class ends before it starts, its body leaves the text, and so does the first method. A
    comment starts in the indentation of the second method and ends on the line above. -/
def tree : Tree where
  kind := .program
  span := ⟨0, 29⟩
  children := [{
    kind := .classDeclaration
    span := ⟨70, 4⟩
    children := [{
      kind := .classBody
      span := ⟨8, 900⟩
      children := [
        { kind := .methodDefinition, span := ⟨500, 3⟩ },
        { kind := .comment, span := ⟨20, 11⟩ },
        { kind := .methodDefinition, span := ⟨21, 27⟩ }] }] }]

def diagnostic : Diagnostic where
  severity := .error
  offset := 19
  length := 8
  message := "must have at least one new line between class methods"
  fix? := some { offset := 19, length := 8, replacement := "\n  b() \x7b\x7d".toList }
  start := { line := 2, character := 0, offset := 19 }
  stop := { line := 2, character := 8, offset := 27 }

/-- The same text, with everything in its place. -/
def placedTree : Tree where
  kind := .program
  span := ⟨0, 29⟩
  children := [{
    kind := .classDeclaration
    span := ⟨0, 29⟩
    children := [{
      kind := .classBody
      span := ⟨8, 29⟩
      children := [
        { kind := .methodDefinition, span := ⟨12, 18⟩ },
        { kind := .methodDefinition, span := ⟨21, 27⟩ }] }] }]

/-- The largest number of lines that can be required. -/
def largest : Rule where
  spacing := .exactly 18446744073709551615

/-- A complaint about the tree that is out of place, and a requirement that there is no room for. -/
theorem check_is_safe_iff_fits_misplaced :
    Strict.check {} source tree = .ok [diagnostic] ∧ Rule.Addresses {} source diagnostic ∧
      Strict.check largest source placedTree = .error (.capacity 18446744073709551615) ∧
      ∃ d ∈ Rule.check largest source placedTree, ¬d.Fits := by
  have hcheck : Rule.check {} source tree = [diagnostic] := by decide +kernel
  have hhalt : Strict.check largest source placedTree =
      .error (.capacity 18446744073709551615) := by decide +kernel
  obtain ⟨-, -, hroom, haddresses⟩ := Rule.check_is_safe_iff_fits {} source tree
  obtain ⟨hfits, -⟩ := Rule.check_is_safe_iff_fits largest source placedTree
  rw [hcheck] at hroom haddresses
  have hnot : ¬∀ d ∈ Rule.check largest source placedTree, d.Fits := by
    intro hall
    have hok := hfits.2 hall
    rw [hhalt] at hok
    cases hok
  simp only [not_forall, exists_prop] at hnot
  exact ⟨hroom (by decide +kernel), haddresses _ (List.mem_singleton_self _), hhalt, hnot⟩

end Misplaced

end ClassSpacing
