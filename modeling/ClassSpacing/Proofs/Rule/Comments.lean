import ClassSpacing.Proofs.Fix.Removal
import Mathlib.Data.List.Chain

/-!
# The comments that belong to a member

The comments of a member are the longest run of siblings, from its head upwards, of which each is
attached to the one below it (`IsCommentRun`). The walk that looks for the anchor goes over this run
and ends at its topmost comment. Where the siblings stand in the order of the text, no line between
the anchor and the head is left out by all of them, so nothing separates a member from its anchor.
-/

namespace ClassSpacing

open Text

/-! ## Attached comments -/

/-- A comment that belongs to the node below it: it ends no more than one line above the line where
    that node starts, and only white space stands before it on its own first line. -/
structure Tree.IsAttached (source : Text) (t lower : Tree) : Prop where
  kind_eq : t.kind = .comment
  lineOf_le : (LineTable.ofText source).lineOf lower.span.start ≤
    (LineTable.ofText source).lineOf t.span.stop + 1
  exists_cut : ∃ c : Cut source, c.offset = t.span.start ∧ c.indent.isBlank = true

/-- Whether a node starts on a line, ends on it or goes on over it. -/
def Tree.Touches (source : Text) (t : Tree) (line : Nat) : Prop :=
  (LineTable.ofText source).lineOf t.span.start ≤ line ∧
    line ≤ (LineTable.ofText source).lineOf t.span.stop

theorem startsLine_iff {source : Text} {offset : Nat} :
    startsLine source (.ofText source) offset = true ↔
      ∃ c : Cut source, c.offset = offset ∧ c.indent.isBlank = true := by
  constructor
  · intro h
    obtain ⟨start, hstart⟩ := LineTable.exists_lineStart? source offset
    simp only [startsLine, hstart] at h
    split at h
    · rename_i indent hslice
      obtain ⟨c, hoffset, -, rfl⟩ := Cut.exists_of_slice?_lineStart? hstart hslice
      exact ⟨c, hoffset, h⟩
    · cases h
  · rintro ⟨c, rfl, hblank⟩
    rw [c.startsLine_offset, hblank]

theorem Tree.belongs_iff {source : Text} {t lower : Tree} :
    t.belongs source lower = true ↔ t.IsAttached source lower := by
  simp only [belongs, attaches, Bool.and_eq_true, beq_iff_eq, decide_eq_true_eq, startsLine_iff]
  constructor
  · rintro ⟨⟨hkind, hle⟩, hcut⟩
    exact ⟨hkind, hle, hcut⟩
  · intro h
    exact ⟨⟨h.kind_eq, h.lineOf_le⟩, h.exists_cut⟩

theorem Tree.belongs_eq_false_iff {source : Text} {t lower : Tree} :
    t.belongs source lower = false ↔ ¬ t.IsAttached source lower := by
  rw [← belongs_iff, Bool.not_eq_true]

/-! ## Runs of comments -/

/-- Nodes from the bottom up, of which each is attached to the one before it in the list. -/
abbrev AttachedChain (source : Text) (nodes : List Tree) : Prop :=
  nodes.IsChain fun lower t => t.IsAttached source lower

/-- The longest run of siblings above a node, nearest first, of which each is attached to the one
    below it. -/
structure IsCommentRun (source : Text) (lower : Tree) (above run : List Tree) : Prop where
  initial : run <+: above
  attached : AttachedChain source (lower :: run)
  longest : ∀ other, other <+: above → AttachedChain source (lower :: other) → other <+: run

namespace Walk

variable {source : Text} {start top : Tree} {above left : List Tree}

/-- A walk goes over attached comments and finds the start of the topmost of them. -/
theorem exists_run (h : Walk source start above top left) :
    ∃ run, above = run ++ left ∧ AttachedChain source (start :: run) ∧
      (start :: run).getLast? = some top ∧
      attachedStart source (.ofText source) ((LineTable.ofText source).lineOf start.span.start)
        above = run.getLast?.map (·.span.start) := by
  induction h with
  | @stop start above h =>
    exact ⟨[], rfl, List.isChain_singleton _, rfl, attachedStart_eq_none_iff.2 h⟩
  | @step start t top rest left h _ ih =>
    obtain ⟨run, rfl, hchain, hlast, hstart⟩ := ih
    refine ⟨t :: run, rfl, List.isChain_cons_cons.2 ⟨Tree.belongs_iff.1 h, hchain⟩,
      List.getLast?_cons_cons.trans hlast, ?_⟩
    rw [Tree.belongs] at h
    rw [attachedStart, if_pos h, hstart, List.getLast?_cons]
    cases run.getLast? <;> rfl

/-- What a walk goes over is the longest run: a longer one would go on over the sibling where the walk
    stops. -/
theorem isCommentRun {run : List Tree} (h : Walk source start (run ++ left) top left)
    (hchain : AttachedChain source (start :: run)) (hlast : (start :: run).getLast? = some top) :
    IsCommentRun source start (run ++ left) run := by
  refine ⟨List.prefix_append .., hchain, fun other hother hattached => ?_⟩
  rcases List.prefix_or_prefix_of_prefix hother (List.prefix_append run left) with hle | ⟨more, rfl⟩
  · exact hle
  · cases more with
    | nil => simp
    | cons t more =>
      exfalso
      obtain ⟨rest, rfl⟩ := (List.prefix_append_right_inj run).1 hother
      have hnot := h.not_belongs t rfl
      rw [← List.cons_append, AttachedChain, List.isChain_append] at hattached
      exact Tree.belongs_eq_false_iff.1 hnot (hattached.2.2 top hlast t rfl)

end Walk

/-! ## The lines between the anchor and the head -/

section

variable {source : Text} {lower : Tree} {run : List Tree}

theorem AttachedChain.isAttached_of_neighbours {nodes : List Tree} (h : AttachedChain source nodes)
    {upper : Tree} (hneighbours : [lower, upper] <:+: nodes) : upper.IsAttached source lower := by
  obtain ⟨front, back, rfl⟩ := hneighbours
  rw [List.append_assoc, AttachedChain, List.isChain_append] at h
  exact (List.isChain_cons_cons.1 h.2.1).1

/-- The lines from the topmost of some attached comments down to the node below them are all touched. -/
theorem AttachedChain.exists_touches (h : AttachedChain source (lower :: run))
    (hspan : ∀ t ∈ lower :: run, t.span.start ≤ t.span.stop) {top : Tree}
    (hlast : (lower :: run).getLast? = some top) {line : Nat}
    (hle : (LineTable.ofText source).lineOf top.span.start ≤ line)
    (hge : line ≤ (LineTable.ofText source).lineOf lower.span.start) :
    ∃ t ∈ lower :: run, t.Touches source line := by
  induction run generalizing lower with
  | nil =>
    obtain rfl : lower = top := Option.some.inj hlast
    have hstop := LineTable.lineOf_mono source (hspan lower List.mem_cons_self)
    exact ⟨lower, List.mem_cons_self, hle, by omega⟩
  | cons t rest ih =>
    obtain ⟨hattached, hrest⟩ := List.isChain_cons_cons.1 h
    have hspanRest : ∀ u ∈ t :: rest, u.span.start ≤ u.span.stop :=
      fun u hu => hspan u (List.mem_cons_of_mem _ hu)
    by_cases habove : line ≤ (LineTable.ofText source).lineOf t.span.start
    · obtain ⟨u, hu, htouches⟩ := ih hrest hspanRest (List.getLast?_cons_cons.symm.trans hlast) habove
      exact ⟨u, List.mem_cons_of_mem _ hu, htouches⟩
    · -- Below the start of the comment, only the line of the lower node can be out of its reach.
      by_cases hline : line = (LineTable.ofText source).lineOf lower.span.start
      · have hstop := LineTable.lineOf_mono source (hspan lower List.mem_cons_self)
        exact ⟨lower, List.mem_cons_self, by omega, by omega⟩
      · have hnear := hattached.lineOf_le
        exact ⟨t, by simp, by omega, by omega⟩

end

/-- There is a slice between two nodes that are slices themselves. -/
theorem Tree.exists_gap {source : Text} {t u : Tree} (ht : (t.text? source).isSome)
    (hu : (u.text? source).isSome) (hle : t.span.stop ≤ u.span.start) :
    ∃ gap, source.slice? t.span.stop u.span.start = some gap := by
  obtain ⟨text, htext⟩ := Option.isSome_iff_exists.1 ht
  obtain ⟨below, hbelow⟩ := Option.isSome_iff_exists.1 hu
  obtain ⟨before, after, hsource, hstart, hstop⟩ := slice?_eq_some_iff.1 htext
  obtain ⟨front, back, hfront, hoffset, -⟩ := slice?_eq_some_iff.1 hbelow
  have heq : (before ++ text) ++ after = front ++ (below ++ back) := by
    rw [← hsource, hfront, List.append_assoc]
  obtain ⟨gap, hgap, -⟩ := exists_append_of_byteLength_le heq (by
    rw [byteLength_append]
    omega)
  refine ⟨gap, slice?_eq_some_iff.2 ⟨before ++ text, below ++ back, ?_, ?_, ?_⟩⟩
  · rw [hfront, hgap, List.append_assoc]
  · rw [byteLength_append, hstart, hstop]
  · rw [← hoffset, hgap, byteLength_append, byteLength_append, hstop, hstart]

/-- Between a comment and the node that it is attached to there is no whole line. -/
theorem Tree.IsAttached.exists_gap {source : Text} {t lower : Tree} (h : t.IsAttached source lower)
    (ht : (t.text? source).isSome) (hlower : (lower.text? source).isSome)
    (hle : t.span.stop ≤ lower.span.start) :
    ∃ gap, source.slice? t.span.stop lower.span.start = some gap ∧ gap.count '\n' ≤ 1 := by
  obtain ⟨gap, hgap⟩ := Tree.exists_gap ht hlower hle
  have hnear := h.lineOf_le
  have hcount := LineTable.lineOf_stop_of_slice? hgap
  exact ⟨gap, hgap, by omega⟩

/-! ## The comments of a member -/

/-- A member is led by a run of comments, which its anchor is the start of: the longest run that is
    attached to its head, with no line in it that separates it from the head. -/
structure Member.IsLedBy (source : Text) (m : Member) (run : List Tree) : Prop where
  isCommentRun : IsCommentRun source m.head m.aboveHead run
  commentStart?_eq : m.commentStart? source (.ofText source) = run.getLast?.map (·.span.start)
  commentStart?_eq_none_iff : m.commentStart? source (.ofText source) = none ↔
    ∀ t ∈ m.aboveHead.head?, ¬ t.IsAttached source m.head
  anchor_le_start : m.anchor source (.ofText source) ≤ m.start
  /-- Every line from that of the anchor to that of the head is touched. -/
  exists_touches : ∀ line,
    (LineTable.ofText source).lineOf (m.anchor source (.ofText source)) ≤ line →
    line ≤ (LineTable.ofText source).lineOf m.start → ∃ t ∈ m.head :: run, t.Touches source line
  /-- Between two neighbours there is no whole line. -/
  exists_gap : ∀ lower upper, [lower, upper] <:+: m.head :: run →
    ∃ gap, source.slice? upper.span.stop lower.span.start = some gap ∧ gap.count '\n' ≤ 1
  /-- The sibling above the anchor is not attached to what starts there. -/
  not_isAttached : ∃ top left, m.aboveHead = run ++ left ∧ (m.head :: run).getLast? = some top ∧
    m.anchor source (.ofText source) = top.span.start ∧
    ∀ t ∈ left.head?, ¬ t.IsAttached source top

namespace Member

variable {source : Text} {m : Member}

/-- A member whose siblings stand one behind the other is led by what the walk up from its head goes
    over. -/
theorem exists_isLedBy_of_row
    (hrow : (m.head :: m.aboveHead).Pairwise fun a b => b.span.stop ≤ a.span.start)
    (htext : ∀ t ∈ m.head :: m.aboveHead, (t.text? source).isSome) :
    ∃ run, m.IsLedBy source run := by
  obtain ⟨top, left, hwalk⟩ := Walk.exists_walk source m.head m.aboveHead
  obtain ⟨run, habove, hchain, hlast, hstart⟩ := hwalk.exists_run
  have hanchor := hwalk.anchor_eq
  have hinitial : m.head :: run <+: m.head :: m.aboveHead := by
    rw [habove, ← List.cons_append]
    exact List.prefix_append ..
  have hspan : ∀ t ∈ m.head :: m.aboveHead, t.span.start ≤ t.span.stop :=
    fun t ht => Tree.start_le_stop_of_text? (htext t ht)
  have htop : top ∈ m.head :: m.aboveHead := hinitial.subset (List.mem_of_getLast? hlast)
  refine ⟨run, ?_, hstart, ?_, ?_, ?_, ?_, ?_⟩
  · have hrun := Walk.isCommentRun (habove ▸ hwalk) hchain hlast
    rwa [← habove] at hrun
  · rw [commentStart?, attachedStart_eq_none_iff]
    exact forall₂_congr fun t _ => Tree.belongs_eq_false_iff
  · rw [hanchor, start]
    rcases List.mem_cons.1 htop with rfl | htop'
    · exact Nat.le_refl _
    · exact Nat.le_trans (hspan top htop) ((List.pairwise_cons.1 hrow).1 top htop')
  · intro line hle hge
    rw [hanchor] at hle
    exact hchain.exists_touches (fun t ht => hspan t (hinitial.subset ht)) hlast hle hge
  · intro lower upper hneighbours
    have hrowNeighbours := hneighbours.trans hinitial.isInfix
    have hmem := hrowNeighbours.subset
    have hle : upper.span.stop ≤ lower.span.start := by
      simpa using hrow.sublist hrowNeighbours.sublist
    exact (hchain.isAttached_of_neighbours hneighbours).exists_gap (htext upper (hmem (by simp)))
      (htext lower (hmem (by simp))) hle
  · exact ⟨top, left, habove, hlast, hanchor,
      fun t ht => Tree.belongs_eq_false_iff.1 (hwalk.not_belongs t ht)⟩

/-- The siblings of a member in its body, up to its head. -/
theorem row_of_mem_members {tree body : Tree} (hm : m ∈ tree.members source)
    (hbody : m.body? = some body) :
    (m.head :: m.aboveHead).reverse <+: body.children.filter (·.isNamed) := by
  obtain ⟨s, hs, hmember⟩ := List.mem_filterMap.1 hm
  rw [Site.member?] at hmember
  split at hmember
  · obtain rfl := Option.some.inj hmember
    rcases Tree.eq_or_row_of_mem_sitesIn hs with rfl | ⟨parent, -, haround, hrow⟩
    · cases hbody
    · obtain rfl : parent = body := Option.some.inj (haround.symm.trans hbody)
      exact (List.reverse_prefix.2 s.head_suffix_row).trans hrow
  · cases hmember

/-- Every member of a body whose nodes are parts of the text, one behind the other, is led by the
    comments that belong to it. They are found among the named nodes of the body. -/
theorem exists_isLedBy {tree body : Tree} (hm : m ∈ tree.members source)
    (hbody : m.body? = some body)
    (hordered : body.children.Pairwise fun a b => a.span.stop ≤ b.span.start)
    (htext : ∀ t ∈ body.children, (t.text? source).isSome) :
    (m.head :: m.aboveHead).reverse <+: body.children.filter (·.isNamed) ∧
      ∃ run, m.IsLedBy source run := by
  have hrow := row_of_mem_members hm hbody
  have hsublist : (m.head :: m.aboveHead).reverse.Sublist body.children :=
    hrow.sublist.trans List.filter_sublist
  refine ⟨hrow, exists_isLedBy_of_row ?_ ?_⟩
  · exact List.pairwise_reverse.1 (hordered.sublist hsublist)
  · intro t ht
    exact htext t (hsublist.subset (List.mem_reverse.2 ht))

end Member

/-! ## Comments of several lines above a decorated member -/

namespace Commented

def source : Text :=
  ("class A \x7b\n  a() \x7b\x7d // x\n  /* y\n\n     z */\n  // w\n  @d\n" ++
    "  b() \x7b\x7d\n\x7d").toList

def body : Tree where
  kind := .classBody
  span := ⟨8, 64⟩
  children := [
    { kind := .word "\x7b", span := ⟨8, 9⟩ },
    { kind := .methodDefinition, span := ⟨12, 18⟩ },
    { kind := .comment, span := ⟨19, 23⟩ },
    { kind := .comment, span := ⟨26, 41⟩ },
    { kind := .comment, span := ⟨44, 48⟩ },
    { kind := .decorator, span := ⟨51, 53⟩ },
    { kind := .methodDefinition, span := ⟨56, 62⟩ },
    { kind := .word "\x7d", span := ⟨63, 64⟩ }]

def tree : Tree :=
  .ofChildren .program ⟨0, 64⟩ [.ofChildren .classDeclaration ⟨0, 64⟩ [body]]

/-- The second method. The comment behind the first one shares its line, so it belongs to neither. -/
def member : Member where
  node := { kind := .methodDefinition, span := ⟨56, 62⟩ }
  head := { kind := .decorator, span := ⟨51, 53⟩ }
  aboveHead := [
    { kind := .comment, span := ⟨44, 48⟩ },
    { kind := .comment, span := ⟨26, 41⟩ },
    { kind := .comment, span := ⟨19, 23⟩ },
    { kind := .methodDefinition, span := ⟨12, 18⟩ }]
  body? := some body
  kind := .method
  container := .classBody

theorem exists_isLedBy_commented :
    member ∈ tree.members source ∧ member.commentStart? source (.ofText source) = some 26 ∧
      ∃ run, member.IsLedBy source run ∧ ∃ t ∈ member.head :: run, t.Touches source 3 := by
  have hmem : member ∈ tree.members source := List.mem_cons_of_mem _ List.mem_cons_self
  have hstart : member.commentStart? source (.ofText source) = some 26 := by decide +kernel
  have hordered : body.children.Pairwise fun a b => a.span.stop ≤ b.span.start := by decide
  have htext : ∀ t ∈ body.children, (t.text? source).isSome := by decide +kernel
  obtain ⟨-, run, hrun⟩ := Member.exists_isLedBy hmem rfl hordered htext
  have hanchor : member.anchor source (.ofText source) = 26 := by rw [Member.anchor, hstart]; rfl
  -- The empty line inside the upper comment is below the anchor and above the decorator.
  have htouches := hrun.exists_touches 3 (by rw [hanchor]; decide +kernel) (by decide +kernel)
  exact ⟨hmem, hstart, run, hrun, htouches⟩

end Commented

end ClassSpacing
