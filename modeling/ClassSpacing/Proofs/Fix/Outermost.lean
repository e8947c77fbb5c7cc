import ClassSpacing.Proofs.Fix.Nesting
import ClassSpacing.Proofs.Fix.Result
import ClassSpacing.Proofs.Rule.Steady

/-!
# The outermost fixes

A fix reaches from its member up over decorators, comments, indentation and blank lines, but never
into what comes before: the fixes of one check start at different places, and of any two the spans
are apart or one lies inside the other. The greedy choice of a pass then has a description without
the order in which it looks at the fixes. It takes those that lie inside no other one
(`Fix.select_eq_outermost`), and a pass makes them all at once and skips the rest.
-/

namespace ClassSpacing

namespace Fix

/-- Whether a fix lies inside another one that covers more. -/
def IsInside (f g : Fix) : Prop :=
  f.span.Within g.span ∧ f.span ≠ g.span

instance (f g : Fix) : Decidable (f.IsInside g) :=
  inferInstanceAs (Decidable (_ ∧ _))

/-- Those of some fixes that lie inside no other one of them. -/
def outermost (fixes : List Fix) : List Fix :=
  fixes.filter fun f => ∀ g ∈ fixes, ¬ f.IsInside g

theorem mem_outermost {fixes : List Fix} {f : Fix} :
    f ∈ outermost fixes ↔ f ∈ fixes ∧ ∀ g ∈ fixes, ¬ f.IsInside g := by
  simp [outermost]

/-- Each fix is one of the outermost ones or lies inside another one. -/
theorem length_outermost (fixes : List Fix) :
    (outermost fixes).length + (fixes.filter fun f => ∃ g ∈ fixes, f.IsInside g).length =
      fixes.length := by
  have hnot : (fun f : Fix => decide (∃ g ∈ fixes, f.IsInside g)) =
      fun f => !decide (∀ g ∈ fixes, ¬ f.IsInside g) := by
    funext f
    rw [← decide_not, decide_eq_decide]
    simp
  rw [hnot]
  exact (List.length_eq_length_filter_add _).symm

section Laminar

variable {fixes : List Fix} (hlaminar : (fixes.map span).Pairwise Span.IsLaminar)
include hlaminar

/-- Fixes that are apart or nested are told apart by where they start. -/
theorem eq_of_offset_eq {f g : Fix} (hf : f ∈ fixes) (hg : g ∈ fixes)
    (h : f.offset = g.offset) : f = g := by
  by_contra hne
  have hsymm : Std.Symm fun f g : Fix => f.span.IsLaminar g.span := ⟨fun _ _ hfg => hfg.symm⟩
  exact ((List.pairwise_map.1 hlaminar).forall hf hg hne).1 h

theorem nodup_of_isLaminar : fixes.Nodup := by
  refine (List.pairwise_map.1 hlaminar).imp ?_
  rintro f g hfg rfl
  exact hfg.1 rfl

variable (hpos : ∀ g ∈ fixes, 0 < g.length)
include hpos

/-- A fix is taken exactly if it lies inside no other one. -/
theorem mem_select_iff {f : Fix} : f ∈ select fixes ↔ f ∈ outermost fixes := by
  rw [mem_outermost]
  constructor
  · intro hf
    refine ⟨mem_of_mem_select hf, ?_⟩
    rintro g hg ⟨hwithin, hne⟩
    exact hne (eq_of_within_of_mem_select hlaminar hpos hf hg hwithin)
  · rintro ⟨hf, houter⟩
    -- The fix lies inside one that is taken, which covers no more than it does.
    obtain ⟨g, hg, hwithin⟩ := List.countP_pos_iff.1
      (Nat.lt_of_lt_of_eq Nat.one_pos (countP_select hlaminar hpos hf).symm)
    replace hwithin : f.span.Within g.span := of_decide_eq_true hwithin
    have hspan : f.span = g.span := by
      by_contra hne
      exact houter g (mem_of_mem_select hg) ⟨hwithin, hne⟩
    have heq := eq_of_offset_eq hlaminar hf (mem_of_mem_select hg) (congrArg Span.start hspan)
    rw [heq]
    exact hg

/-- The fixes that are taken are the outermost ones, in the order of their starts. -/
theorem select_eq_outermost : select fixes = (outermost fixes).mergeSort precedes := by
  have hnodup := nodup_of_isLaminar hlaminar
  have hselect : (select fixes).Nodup :=
    ((List.mergeSort_perm fixes precedes).nodup_iff.2 hnodup).sublist (selectAfter_sublist none _)
  have hperm : (select fixes).Perm (outermost fixes) :=
    (List.perm_ext_iff_of_nodup hselect (hnodup.filter _)).2 fun f =>
      mem_select_iff hlaminar hpos
  refine List.Perm.eq_of_pairwise ?_ (pairwise_precedes_select fixes)
    (List.pairwise_mergeSort precedes_trans precedes_total _)
    (hperm.trans (List.mergeSort_perm _ precedes).symm)
  intro f g hf hg hfg hgf
  have hg' : g ∈ fixes := (mem_outermost.1 (List.mem_mergeSort.1 hg)).1
  exact eq_of_offset_eq hlaminar (mem_of_mem_select hf) hg'
    (Nat.le_antisymm (offset_le_of_precedes hfg) (offset_le_of_precedes hgf))

end Laminar

/-- Two fixes start at different places, and their spans are apart or one of them lies inside the
    other. -/
def Nests (f g : Fix) : Prop :=
  f.offset ≠ g.offset ∧
    (f.stop ≤ g.offset ∨ g.stop ≤ f.offset ∨ f.IsInside g ∨ g.IsInside f)

theorem nests_of_isLaminar {f g : Fix} (h : f.span.IsLaminar g.span) : f.Nests g := by
  obtain ⟨hne, hcases⟩ := h
  have hspan : f.span ≠ g.span := fun heq => hne (congrArg Span.start heq)
  refine ⟨hne, ?_⟩
  rcases hcases with hlt | hlt | ⟨hlt, hle⟩ | ⟨hlt, hle⟩
  · exact .inl (Nat.le_of_lt hlt)
  · exact .inr (.inl (Nat.le_of_lt hlt))
  · exact .inr (.inr (.inr ⟨⟨Nat.le_of_lt hlt, hle⟩, hspan.symm⟩))
  · exact .inr (.inr (.inl ⟨⟨Nat.le_of_lt hlt, hle⟩, hspan⟩))

end Fix

namespace Rule

variable {rule : Rule} {source : Text}

/-- A pass over the fixes for a source with a well-formed tree makes the outermost ones at once, and
    skips those that lie inside another one. -/
theorem exists_pass_outermost (file : Path) {tree : Tree} (htree : tree.WellFormed source) :
    let fixes := (rule.check source tree).filterMap (·.fix?)
    ∃ pass, applyFixes file source (rule.check source tree) = .ok pass ∧
      pass.text = Fix.substitute source ((Fix.outermost fixes).mergeSort Fix.precedes) ∧
      pass.applied = (Fix.outermost fixes).length ∧
      pass.skipped = (fixes.filter fun f => ∃ g ∈ fixes, f.IsInside g).length := by
  intro fixes
  have horder : ∀ m ∈ tree.members source, m.InOrder := fun m => .of_wellFormed htree
  have hfixes := fun f (hf : f ∈ fixes) => proposes_of_mem_check horder hf
  have hlaminar : (fixes.map Fix.span).Pairwise Span.IsLaminar := by
    rw [map_span_check]
    exact pairwise_isLaminar htree
  have hselect := Fix.select_eq_outermost hlaminar fun f hf => (hfixes f hf).2.1
  have happly := Fix.applyFrom_eq_substitute file (pairwise_select_check horder) (by
    intro f hf
    obtain ⟨⟨c, hproposes⟩, -⟩ := hfixes f (Fix.mem_of_mem_select hf)
    exact hproposes.isPlaced)
  have hlength : (Fix.select fixes).length = (Fix.outermost fixes).length := by
    rw [hselect, List.length_mergeSort]
  have hcount := Fix.length_outermost fixes
  refine ⟨⟨_, _, _⟩, applyFixes_eq_ok_iff.2 ⟨happly, rfl, rfl⟩, ?_, hlength, ?_⟩
  · exact congrArg (Fix.substitute source) hselect
  · show fixes.length - (Fix.select fixes).length = _
    omega

/-- The fixes that one run proposes for a source with a well-formed tree start at different places,
    and of any two the spans are apart or one lies strictly inside the other. So a pass succeeds,
    makes exactly the outermost ones, and skips exactly those that lie inside another one. -/
theorem lint_fixes_nest (rule : Rule) (file : Path) {read : Reader} {dialect : Dialect}
    {diagnostics : List Diagnostic} (htree : (read dialect source).WellFormed source)
    (h : rule.lint read dialect source = .ok diagnostics) :
    let fixes := diagnostics.filterMap (·.fix?)
    fixes.Pairwise Fix.Nests ∧
      ∃ pass, applyFixes file source diagnostics = .ok pass ∧
        pass.text = Fix.substitute source ((Fix.outermost fixes).mergeSort Fix.precedes) ∧
        pass.applied = (Fix.outermost fixes).length ∧
        pass.skipped = (fixes.filter fun f => ∃ g ∈ fixes, f.IsInside g).length := by
  obtain ⟨-, rfl⟩ := lint_eq_ok_iff.1 h
  refine ⟨?_, exists_pass_outermost file htree⟩
  have hlaminar : (rule.spans source (read dialect source)).Pairwise Span.IsLaminar :=
    pairwise_isLaminar htree
  rw [← map_span_check, List.pairwise_map] at hlaminar
  exact hlaminar.imp Fix.nests_of_isLaminar

end Rule

/-! ## A class inside a decorator -/

namespace Decorated

/-- A class with a decorator that declares a class. No two members are separated. -/
def source : Text :=
  ("class A \x7b\n  a() \x7b\x7d\n  @on(() => \x7b\n    class B \x7b\n      c() \x7b\x7d\n" ++
    "      d() \x7b\x7d\n    \x7d\n  \x7d)\n  b() \x7b\x7d\n\x7d\n").toList

def letters : Text :=
  ("classA\x7ba()\x7b\x7d@on(()=>\x7bclassB\x7bc()\x7b\x7dd()\x7b\x7d\x7d\x7d)" ++
    "b()\x7b\x7d\x7d").toList

/-- A decorator with the name of two letters, and an argument without parameters. -/
def decoratorOn (first last : Nat) (statements : List Tree) : Tree :=
  let parameters := Tree.onLetters (.other "formal_parameters") (first + 4) (first + 5) []
  let block := Tree.onLetters (.other "statement_block") (first + 8) (last - 1) statements
  let argument := Tree.onLetters (.other "arrow_function") (first + 4) (last - 1) [parameters, block]
  .onLetters .decorator first last [.onLetters (.other "call_expression") (first + 1) last [
    .onLetters (.other "identifier") (first + 1) (first + 2) [],
    .onLetters (.other "arguments") (first + 3) last [argument]]]

def tree : Tree :=
  .onLetters .program 0 46 [.classOn 0 46 [
    .methodOn 7 11 [],
    decoratorOn 12 40 [.classOn 21 38 [.methodOn 28 32 [], .methodOn 33 37 []]],
    .methodOn 41 45 []]]

theorem fits_tree : tree.fits letters = true := by decide

def read : Reader := .ofLetters letters tree

/-- The fix for the decorated method covers the one for the method inside the decorator. -/
theorem lint_fixes_nest_decorated :
    (read .typeScript source).WellFormed source ∧
      ∃ diagnostics, Rule.lint {} read .typeScript source = .ok diagnostics ∧
        (diagnostics.filterMap (·.fix?)).map Fix.span = [⟨60, 72⟩, ⟨19, 92⟩] ∧
        ∃ pass, applyFixes ⟨"a.ts"⟩ source diagnostics = .ok pass ∧
          pass.applied = 1 ∧ pass.skipped = 1 := by
  have htree := Reader.wellFormed_ofLetters fits_tree .typeScript source
  have hlint : Rule.lint {} read .typeScript source = .ok _ :=
    Rule.lint_eq_ok_iff.2 ⟨by decide, rfl⟩
  have hfixes : ((Rule.check {} source (read .typeScript source)).filterMap (·.fix?)).map
      Fix.span = [⟨60, 72⟩, ⟨19, 92⟩] := by
    decide +kernel
  have houter : (Fix.outermost
      ((Rule.check {} source (read .typeScript source)).filterMap (·.fix?))).length = 1 := by
    decide +kernel
  have hinner := Fix.length_outermost
    ((Rule.check {} source (read .typeScript source)).filterMap (·.fix?))
  obtain ⟨-, pass, hpass, -, happlied, hskipped⟩ :=
    Rule.lint_fixes_nest {} ⟨"a.ts"⟩ htree hlint
  refine ⟨htree, _, hlint, hfixes, pass, hpass, happlied.trans houter, ?_⟩
  have htwo := congrArg List.length hfixes
  rw [List.length_map] at htwo
  rw [hskipped]
  simp only [List.length_cons, List.length_nil] at htwo
  omega

end Decorated

end ClassSpacing
