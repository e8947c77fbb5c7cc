import ClassSpacing.Proofs.Rule.Examine
import ClassSpacing.Proofs.Tree.WellFormed
import Mathlib.Data.List.TakeWhile

/-!
# The anchors of different members

A member's anchor is found by a walk up its *column*: its head and the comments right above it. In a
well-formed tree the columns of two members do not get mixed up. The anchor of one never stands
between two neighbours in the column of the other, and two members have the same anchor only if one
of them is not below its class header.
-/

namespace ClassSpacing

open Text

/-! ## The places of a node -/

namespace Tree.WellFormed

variable {source : Text} {t : Tree}

/-- A node starts and ends at the boundaries of characters. -/
theorem exists_cuts (h : t.WellFormed source) :
    ∃ c : Cut source, c.offset = t.span.start ∧ ∃ d : Cut source, d.offset = t.span.stop := by
  obtain ⟨text, htext, -, -⟩ := h.exists_text
  obtain ⟨before, after, hcut, hstart, hstop⟩ := slice?_eq_some_iff.1 htext
  obtain ⟨c, hc, -⟩ := Cut.exists_of_append ((List.append_assoc ..).symm.trans hcut.symm).symm
  obtain ⟨d, hd, -⟩ := Cut.exists_of_append hcut
  exact ⟨c, hc.trans hstart, d, by rw [hd, byteLength_append, hstart, hstop]⟩

/-- A node that the rule asks about starts with something other than white space. -/
theorem isSolid (h : t.WellFormed source) (hmarked : t.kind.isMarked = true) :
    t.span.IsSolid source := by
  obtain ⟨text, htext, htrimmed, -⟩ := h.exists_text
  obtain ⟨⟨e, he, hspace⟩, -⟩ := htrimmed hmarked
  obtain ⟨rest, rfl⟩ : ∃ rest, text = e :: rest := List.head?_eq_some_iff.1 he
  exact ⟨e, rest, htext, hspace⟩

/-- A node that the rule asks about and that does not end behind some blank text ends on one of the
    lines before it. -/
theorem stop_lt_of_endsLine (h : t.WellFormed source) (hmarked : t.kind.isMarked = true)
    {top mid rest : Text} (hsource : source = top ++ (mid ++ rest)) (htop : top.EndsLine)
    (hmid : mid.isBlank = true) (hle : t.span.stop ≤ (top ++ mid).byteLength) :
    t.span.stop < top.byteLength := by
  have hpos := h.start_lt_stop hmarked
  have hstop := h.stop_le hmarked hsource hmid hle
  rcases htop.eq_nil_or_snoc with rfl | ⟨front, line, rfl, -, -⟩
  · simp at hstop
    omega
  · have hsource' : source = (front ++ line) ++ (['\n'] ++ (mid ++ rest)) := by simp [hsource]
    have hle' := h.stop_le hmarked hsource' rfl (by simpa [Nat.add_assoc] using hstop)
    have hnewline := Char.utf8Size_pos '\n'
    simp only [byteLength_append, byteLength_cons, byteLength_nil] at hle' ⊢
    omega

end Tree.WellFormed

/-! ## The column of a member -/

/-- The head of a member and the comments right above it, from the bottom up. -/
def Member.column (m : Member) : List Tree :=
  m.head :: m.aboveHead.takeWhile (·.kind == .comment)

namespace Site

/-- The topmost decorator is found among decorators and comments. -/
theorem decorated_eq (best : Tree × List Tree) (above : List Tree) :
    decorated best above = best ∨ ∃ mid, above = mid ++
      (decorated best above).1 :: (decorated best above).2 ∧
      (decorated best above).1.kind = .decorator ∧
      ∀ t ∈ mid, t.kind = .decorator ∨ t.kind = .comment := by
  induction above generalizing best with
  | nil => exact .inl rfl
  | cons t rest ih =>
    rw [decorated]
    split
    · rename_i hkind
      right
      rcases ih (t, rest) with heq | ⟨mid, heq, hdecorator, hmid⟩
      · exact ⟨[], by simp [heq], by simp [heq, hkind], by simp⟩
      · exact ⟨t :: mid, by rw [List.cons_append, ← heq], hdecorator,
          List.forall_mem_cons.2 ⟨.inl hkind, hmid⟩⟩
    · rename_i hkind
      rcases ih best with heq | ⟨mid, heq, hdecorator, hmid⟩
      · exact .inl heq
      · exact .inr ⟨t :: mid, by rw [List.cons_append, ← heq], hdecorator,
          List.forall_mem_cons.2 ⟨.inr hkind, hmid⟩⟩
    · exact .inl rfl

/-- The column of a member ends where its decorators and comments end. -/
theorem exists_column (s : Site) : ∃ pre post, s.before = pre ++ post ∧
    (∀ t ∈ pre, t.kind = .decorator ∨ t.kind = .comment) ∧
    s.toMember.column <:+ s.node :: pre := by
  have htake : ∀ ts : List Tree, ∀ t ∈ ts.takeWhile (·.kind == .comment), t.kind = .comment := by
    intro ts t ht
    simpa using List.mem_takeWhile_imp ht
  rcases decorated_eq (s.node, s.before) s.before with heq | ⟨mid, heq, hdecorator, hmid⟩
  · have hhead : s.toMember.head = s.node := congrArg Prod.fst heq
    have habove : s.toMember.aboveHead = s.before := congrArg Prod.snd heq
    refine ⟨s.before.takeWhile (·.kind == .comment), s.before.dropWhile (·.kind == .comment),
      List.takeWhile_append_dropWhile.symm, fun t ht => .inr (htake _ t ht), ?_⟩
    have hcolumn : s.toMember.column = s.node :: s.before.takeWhile (·.kind == .comment) := by
      rw [Member.column, hhead, habove]
    exact hcolumn ▸ List.suffix_refl _
  · refine ⟨mid ++ s.toMember.column, s.toMember.aboveHead.dropWhile (·.kind == .comment), ?_, ?_,
      (List.suffix_append mid _).trans (List.suffix_cons ..)⟩
    · rw [Member.column, List.append_assoc, List.cons_append, List.takeWhile_append_dropWhile]
      exact heq
    · intro t ht
      rcases List.mem_append.1 ht with ht | ht
      · exact hmid t ht
      · rcases List.mem_cons.1 ht with rfl | ht
        · exact .inl hdecorator
        · exact .inr (htake _ t ht)

theorem head_suffix_row (s : Site) : s.toMember.head :: s.toMember.aboveHead <:+ s.row := by
  rcases decorated_eq (s.node, s.before) s.before with heq | ⟨mid, heq, -, -⟩
  · have hhead : s.toMember.head = s.node := congrArg Prod.fst heq
    have habove : s.toMember.aboveHead = s.before := congrArg Prod.snd heq
    rw [hhead, habove]
    exact List.suffix_refl _
  · exact ⟨s.node :: mid, by rw [List.cons_append]; exact congrArg (s.node :: ·) heq.symm⟩

variable {source : Text} {s u : Site} {parent : Tree}

theorem column_subset_row (s : Site) : s.toMember.column ⊆ s.row := by
  obtain ⟨pre, post, heq, -, hsuffix⟩ := s.exists_column
  intro t ht
  rw [row, heq, ← List.cons_append]
  exact List.mem_append_left _ (hsuffix.subset ht)

theorem isMarked_of_isDeclaration (hs : s.isDeclaration = true) : s.node.kind.isMarked = true := by
  unfold isDeclaration at hs
  split at hs <;> simp_all [Kind.isMarked]

/-- Everything in the column of a declaration is a node that the rule asks about. -/
theorem isMarked_of_mem_column (hs : s.isDeclaration = true) {t : Tree}
    (ht : t ∈ s.toMember.column) : t.kind.isMarked = true := by
  obtain ⟨pre, post, -, hpre, hsuffix⟩ := s.exists_column
  rcases List.mem_cons.1 (hsuffix.subset ht) with rfl | ht
  · exact isMarked_of_isDeclaration hs
  · rcases hpre t ht with hkind | hkind <;> simp [hkind, Kind.isMarked]

/-- The column of a later sibling ends below an earlier declaration. -/
theorem mem_of_mem_column_of_sibling {between : List Tree} (hs : s.isDeclaration = true)
    (h : u.before = between ++ s.row) {t : Tree} (ht : t ∈ u.toMember.column) :
    t ∈ u.node :: between := by
  obtain ⟨pre, post, heq, hpre, hsuffix⟩ := u.exists_column
  have hinside : pre ⊆ between := by
    rcases List.append_eq_append_iff.1 (heq.symm.trans h) with ⟨x, hx, -⟩ | ⟨x, hx, hy⟩
    · rw [hx]
      exact List.subset_append_left ..
    · cases x with
      | nil => simp [hx]
      | cons a x =>
        -- Otherwise the earlier declaration would be a decorator or a comment.
        exfalso
        obtain rfl : s.node = a := (List.cons.inj hy).1
        rcases hpre s.node (by simp [hx]) with hkind | hkind <;> simp [isDeclaration, hkind] at hs
  rcases List.mem_cons.1 (hsuffix.subset ht) with rfl | ht
  · exact List.mem_cons_self ..
  · exact List.mem_cons_of_mem _ (hinside ht)

/-! ## Rows and columns in a well-formed tree -/

/-- A site that declares something in the body of a class. -/
structure Declares (source : Text) (s : Site) (body : Tree) : Prop where
  isPlaced : s.IsPlaced source body
  isDeclaration : s.isDeclaration = true
  kind_body : body.kind = .classBody

theorem IsPlaced.parent_unique {p q : Tree} (hp : s.IsPlaced source p) (hq : s.IsPlaced source q) :
    p = q :=
  Option.some.inj (hp.head?_around.symm.trans hq.head?_around)

theorem column_infix_row (s : Site) : s.toMember.column <:+: s.row := by
  obtain ⟨pre, post, heq, -, l, hsuffix⟩ := s.exists_column
  exact ⟨l, post, by rw [hsuffix, row, heq, List.cons_append]⟩

namespace Declares

variable {body : Tree}

theorem within (h : s.Declares source body) {a : Tree} (ha : a ∈ s.toMember.column) :
    a.span.Within body.span :=
  h.isPlaced.within (s.column_subset_row ha)

theorem wellFormed (h : s.Declares source body) {a : Tree} (ha : a ∈ s.toMember.column) :
    a.WellFormed source :=
  h.isPlaced.wellFormed_of_mem (s.column_subset_row ha)

theorem start_lt_stop (h : s.Declares source body) {a : Tree} (ha : a ∈ s.toMember.column) :
    a.span.start < a.span.stop :=
  (h.wellFormed ha).start_lt_stop (isMarked_of_mem_column h.isDeclaration ha)

theorem node_lt (h : s.Declares source body) : s.node.span.start < s.node.span.stop :=
  (h.isPlaced.wellFormed_of_mem (List.mem_cons_self ..)).start_lt_stop
    (isMarked_of_isDeclaration h.isDeclaration)

/-- Neighbours in the column of a member stand one behind the other. -/
theorem stop_le_of_neighbours (h : s.Declares source body) {lower upper : Tree}
    (hn : [lower, upper] <:+: s.toMember.column) : upper.span.stop ≤ lower.span.start := by
  have hpair := h.isPlaced.ordered.sublist (hn.trans s.column_infix_row).sublist
  exact (List.pairwise_cons.1 hpair).1 upper (List.mem_cons_self ..)

/-- Further up in the column nothing starts later. -/
theorem start_le_of_suffix (h : s.Declares source body) {lower upper : Tree} {rest : List Tree}
    (hsuffix : lower :: rest <:+ s.toMember.column) (hupper : upper ∈ lower :: rest) :
    upper.span.start ≤ lower.span.start := by
  rcases List.mem_cons.1 hupper with rfl | hrest
  · exact Nat.le_refl _
  · have hordered := h.isPlaced.ordered.sublist (hsuffix.isInfix.trans s.column_infix_row).sublist
    exact Nat.le_trans (Nat.le_of_lt (h.start_lt_stop (hsuffix.subset hupper)))
      ((List.pairwise_cons.1 hordered).1 upper hrest)

theorem start_lt_node_stop (h : s.Declares source body) {a : Tree} (ha : a ∈ s.toMember.column) :
    a.span.start < s.node.span.stop :=
  Nat.lt_of_le_of_lt (h.isPlaced.isOrdered.start_le_node (s.column_subset_row ha)) h.node_lt

/-- The column of a later sibling starts behind an earlier declaration. -/
theorem stop_le_of_sibling (hu : u.IsPlaced source parent) {between : List Tree}
    (hs : s.isDeclaration = true) (h : u.before = between ++ s.row) {a : Tree}
    (ha : a ∈ u.toMember.column) : s.node.span.stop ≤ a.span.start := by
  have hordered := hu.ordered
  rw [row, h, ← List.cons_append, List.pairwise_append] at hordered
  exact hordered.2.2 a (mem_of_mem_column_of_sibling hs h ha) s.node (List.mem_cons_self ..)

end Declares

/-! ## Two members -/

/-- How a member stands to another one, where `body` and `other` are the class bodies around them. -/
inductive Stands (s u : Site) (body other : Tree) : Prop
  /-- It ends before the column of the other one starts. -/
  | before (h : ∀ a ∈ u.toMember.column, s.node.span.stop ≤ a.span.start)
  /-- It is behind the other one. -/
  | behind (h : ∀ b ∈ s.toMember.column, u.node.span.stop ≤ b.span.start)
  /-- The other one is below something of its row. -/
  | around {t : Tree} (ht : t ∈ s.row) (h : other.span.Within t.span)
  /-- It is below something of the row of the other one. -/
  | inside {t : Tree} (ht : t ∈ u.row) (h : body.span.Within t.span)

theorem Stands.symm {body other : Tree} (h : s.Stands u body other) : u.Stands s other body := by
  cases h with
  | before h => exact .behind h
  | behind h => exact .before h
  | around ht h => exact .inside ht h
  | inside ht h => exact .around ht h

namespace Declares

variable {body other : Tree}

theorem stands_of_precedes (hs : s.Declares source body) (hu : u.Declares source other)
    (h : s.Precedes source u) : s.Stands u body other := by
  cases h with
  | below h =>
    obtain ⟨q, hq, hwithin⟩ := h
    obtain rfl := hq.parent_unique hu.isPlaced
    exact .around (List.mem_cons_self ..) hwithin
  | apart h hle =>
    obtain rfl := h.parent_unique hu.isPlaced
    exact .before fun a ha => Nat.le_trans hle (hu.within ha).1
  | sibling _ hu' heq =>
    exact .before fun a ha => stop_le_of_sibling hu' hs.isDeclaration heq ha
  | inSibling _ ht h =>
    obtain ⟨q, hq, hwithin⟩ := h
    obtain rfl := hq.parent_unique hs.isPlaced
    exact .inside (List.mem_cons_of_mem _ ht) hwithin

/-- Two members of a well-formed tree are the same, or they stand to each other in one of the four
    ways. -/
theorem eq_or_stands {tree : Tree} (htree : tree.WellFormed source) (hs : s ∈ tree.sites)
    (hu : u ∈ tree.sites) (hsDeclares : s.Declares source body)
    (huDeclares : u.Declares source other) : s = u ∨ s.Stands u body other := by
  rcases htree.eq_or_precedes hs hu with heq | h | h
  · exact .inl heq
  · exact .inr (hsDeclares.stands_of_precedes huDeclares h)
  · exact .inr (huDeclares.stands_of_precedes hsDeclares h).symm

/-- A place in the column of a member, below the class header, does not stand between two
    neighbours in the column of another member. -/
theorem not_between (hs : s.Declares source body) (hu : u.Declares source other)
    (h : s.Stands u body other) {a lower upper : Tree} (ha : a ∈ u.toMember.column)
    (hheader : other.span.start < a.span.start) (hn : [lower, upper] <:+: s.toMember.column) :
    a.span.start < upper.span.stop ∨ lower.span.start < a.span.start := by
  have hlower : lower ∈ s.toMember.column := hn.subset (by simp)
  have hupper : upper ∈ s.toMember.column := hn.subset (by simp)
  have haStop := hu.start_lt_stop ha
  have haWithin := hu.within ha
  have hupperStop := hs.start_lt_stop hupper
  have hupperWithin := hs.within hupper
  have hlowerStop := hs.start_lt_stop hlower
  have hlowerWithin := hs.within hlower
  cases h with
  | before h =>
    have hlowerNode := hs.start_lt_node_stop hlower
    have hle := h a ha
    exact .inr (by omega)
  | behind h =>
    have haNode := hu.start_lt_node_stop ha
    have hle := h upper hupper
    exact .inl (by omega)
  | around ht hwithin =>
    obtain ⟨hstart, hstop⟩ := hwithin
    rcases hs.isPlaced.isOrdered.not_between (hn.trans s.column_infix_row) ht with hle | hle
    · exact .inl (by have := haWithin.2; omega)
    · exact .inr (by omega)
  | inside ht hwithin =>
    obtain ⟨hstart, hstop⟩ := hwithin
    rcases hu.isPlaced.isOrdered.eq_or_le (u.column_subset_row ha) ht with rfl | hle | hle
    · exact .inl (by have := hupperWithin.1; omega)
    · exact .inl (by have := hupperWithin.1; omega)
    · exact .inr (by have := hlowerWithin.2; omega)

/-- Places in the columns of two members, of which one is below its class header, are the same only
    if the other one is where its class body starts. -/
theorem start_eq_of_eq (hs : s.Declares source body) (hu : u.Declares source other)
    (h : s.Stands u body other) {a b : Tree} (ha : a ∈ u.toMember.column)
    (hheader : other.span.start < a.span.start) (hb : b ∈ s.toMember.column)
    (heq : b.span.start = a.span.start) : b.span.start = body.span.start := by
  have haStop := hu.start_lt_stop ha
  have haWithin := hu.within ha
  have hbStop := hs.start_lt_stop hb
  have hbWithin := hs.within hb
  cases h with
  | before h =>
    have hbNode := hs.start_lt_node_stop hb
    have hle := h a ha
    omega
  | behind h =>
    have haNode := hu.start_lt_node_stop ha
    have hle := h b hb
    omega
  | around ht hwithin =>
    obtain ⟨hstart, hstop⟩ := hwithin
    rcases hs.isPlaced.isOrdered.eq_or_le (s.column_subset_row hb) ht with rfl | hle | hle
    · omega
    · omega
    · have := haWithin.2
      omega
  | inside ht hwithin =>
    obtain ⟨hstart, hstop⟩ := hwithin
    rcases hu.isPlaced.isOrdered.eq_or_le (u.column_subset_row ha) ht with rfl | hle | hle
    · have := hbWithin.1
      omega
    · have := hbWithin.1
      omega
    · have := hbWithin.2
      omega

end Declares

/-- The members of class declarations declare something in the body of a class. -/
theorem exists_declares {tree : Tree} (htree : tree.WellFormed source) (hs : s ∈ tree.sites)
    (hmember : s.isClassMember = true) : ∃ body, s.Declares source body := by
  simp only [isClassMember, Bool.and_eq_true, beq_iff_eq] at hmember
  obtain ⟨⟨hdeclaration, -⟩, hcontainer⟩ := hmember
  rcases Tree.eq_or_isBelow_of_mem_sitesIn htree hs with rfl | ⟨body, hplaced, -⟩
  · simp [container] at hcontainer
  · refine ⟨body, hplaced, hdeclaration, ?_⟩
    obtain ⟨rest, haround⟩ : ∃ rest, s.around = body :: rest := by
      have hhead := hplaced.head?_around
      cases hs : s.around with
      | nil => simp [hs] at hhead
      | cons p rest => exact ⟨rest, by simpa [hs] using hhead⟩
    unfold container at hcontainer
    rw [haround, List.map_cons] at hcontainer
    split at hcontainer <;> simp_all

/-- What stands above the head of a member are siblings of its declaration. -/
theorem aboveHead_subset_before (s : Site) : s.toMember.aboveHead ⊆ s.before := by
  intro t ht
  rcases decorated_eq (s.node, s.before) s.before with heq | ⟨mid, heq, -, -⟩
  · have habove : s.toMember.aboveHead = s.before := congrArg Prod.snd heq
    rwa [habove] at ht
  · rw [heq]
    exact List.mem_append_right _ (List.mem_cons_of_mem _ ht)

end Site

namespace Tree.WellFormed

variable {source : Text} {tree : Tree}

/-- The nodes of a row are well formed, and none of them starts behind the node of the site. -/
theorem of_mem_row (htree : tree.WellFormed source) {s : Site} (hs : s ∈ tree.sites) {a : Tree}
    (ha : a ∈ s.row) : a.WellFormed source ∧ a.span.start ≤ s.node.span.start := by
  rcases Tree.eq_or_isBelow_of_mem_sitesIn htree hs with rfl | ⟨parent, hplaced, -⟩
  · obtain rfl : a = tree := by simpa [Site.row] using ha
    exact ⟨htree, Nat.le_refl _⟩
  · exact ⟨hplaced.wellFormed_of_mem ha, hplaced.isOrdered.start_le_node ha⟩

/-- The nodes of a member are well formed, and none of them starts behind the declaration. The rule
    asks about the declaration and about the head. -/
theorem of_mem_members (htree : tree.WellFormed source) {m : Member}
    (hm : m ∈ tree.members source) :
    m.node.kind.isMarked = true ∧ m.head.kind.isMarked = true ∧
      ∀ a ∈ m.node :: m.head :: m.aboveHead,
        a.WellFormed source ∧ a.span.start ≤ m.node.span.start := by
  obtain ⟨s, hs, hmember⟩ := List.mem_filterMap.1 hm
  rw [Site.member?] at hmember
  split at hmember
  · rename_i hdeclares
    obtain rfl := Option.some.inj hmember
    rw [Bool.and_eq_true] at hdeclares
    have hhead : s.toMember.head ∈ s.toMember.column := List.mem_cons_self ..
    refine ⟨Site.isMarked_of_isDeclaration hdeclares.1,
      Site.isMarked_of_mem_column hdeclares.1 hhead, fun a ha => htree.of_mem_row hs ?_⟩
    rcases List.mem_cons.1 ha with rfl | ha
    · exact List.mem_cons_self ..
    · rcases List.mem_cons.1 ha with rfl | ha
      · exact s.column_subset_row hhead
      · exact List.mem_cons_of_mem _ (s.aboveHead_subset_before ha)
  · simp at hmember

end Tree.WellFormed

/-! ## The walk up the column -/

/-- Whether a node is a comment that belongs to the node below it. -/
def Tree.belongs (source : Text) (t lower : Tree) : Bool :=
  attaches source (.ofText source) ((LineTable.ofText source).lineOf lower.span.start) t

theorem Tree.kind_of_belongs {source : Text} {t lower : Tree} (h : t.belongs source lower = true) :
    t.kind = .comment := by
  simp only [belongs, attaches, Bool.and_eq_true, beq_iff_eq] at h
  exact h.1.1

/-- Nothing is attached exactly if the nearest sibling above is not. -/
theorem attachedStart_eq_none_iff {source : Text} {table : LineTable} {below : Nat}
    {above : List Tree} : attachedStart source table below above = none ↔
      ∀ t ∈ above.head?, attaches source table below t = false := by
  cases above with
  | nil => simp [attachedStart]
  | cons t rest =>
    rw [attachedStart]
    cases hattaches : attaches source table below t <;> simp [hattaches]

/-- The walk from `start` over the siblings above it ends at `top` and leaves `left`. -/
inductive Walk (source : Text) : Tree → List Tree → Tree → List Tree → Prop
  | stop {start : Tree} {above : List Tree} (h : ∀ t ∈ above.head?, t.belongs source start = false) :
      Walk source start above start above
  | step {start t top : Tree} {rest left : List Tree} (h : t.belongs source start = true)
      (walk : Walk source t rest top left) : Walk source start (t :: rest) top left

namespace Walk

variable {source : Text} {start top : Tree} {above left : List Tree}

theorem exists_walk (source : Text) (start : Tree) (above : List Tree) :
    ∃ top left, Walk source start above top left := by
  induction above generalizing start with
  | nil => exact ⟨start, [], .stop (by simp)⟩
  | cons t rest ih =>
    cases h : t.belongs source start with
    | false => exact ⟨start, t :: rest, .stop (by simpa using h)⟩
    | true =>
      obtain ⟨top, left, hwalk⟩ := ih t
      exact ⟨top, left, .step h hwalk⟩

/-- The walk ends where the attached comments start. -/
theorem attachedStart_getD (h : Walk source start above top left) :
    (attachedStart source (.ofText source) ((LineTable.ofText source).lineOf start.span.start)
      above).getD start.span.start = top.span.start := by
  induction h with
  | stop h =>
    rw [attachedStart_eq_none_iff.2 h]
    rfl
  | @step start t top rest left h _ ih =>
    rw [Tree.belongs] at h
    rw [attachedStart, if_pos h, Option.getD_or]
    exact ih

theorem anchor_eq {m : Member} (h : Walk source m.head m.aboveHead top left) :
    m.anchor source (.ofText source) = top.span.start :=
  h.attachedStart_getD

/-- The comment above the end of the walk does not belong to it. -/
theorem not_belongs (h : Walk source start above top left) :
    ∀ t ∈ left.head?, t.belongs source top = false := by
  induction h with
  | stop h => exact h
  | step _ _ ih => exact ih

/-- The column of a node and the siblings above it goes on at the next comment. -/
theorem suffix_column {t : Tree} {rest : List Tree} (h : t.kind = .comment) :
    t :: rest.takeWhile (·.kind == .comment) <:+
      start :: (t :: rest).takeWhile (·.kind == .comment) := by
  rw [List.takeWhile_cons, if_pos (by simp [h])]
  exact List.suffix_cons ..

/-- The walk stays in the column. -/
theorem mem_column (h : Walk source start above top left) :
    top ∈ start :: above.takeWhile (·.kind == .comment) := by
  induction h with
  | stop => exact List.mem_cons_self ..
  | step h _ ih => exact (suffix_column (Tree.kind_of_belongs h)).subset ih

/-- A comment above the end of the walk is its neighbour in the column. -/
theorem neighbours_of_mem_head? (h : Walk source start above top left) {t : Tree}
    (ht : t ∈ left.head?) (hkind : t.kind = .comment) :
    [top, t] <:+: start :: above.takeWhile (·.kind == .comment) := by
  induction h with
  | @stop start above _ =>
    obtain ⟨rest, rfl⟩ : ∃ rest, above = t :: rest := List.head?_eq_some_iff.1 ht
    refine ⟨[], rest.takeWhile (·.kind == .comment), ?_⟩
    rw [List.takeWhile_cons, if_pos (by simp [hkind])]
    rfl
  | step h _ ih => exact (ih ht).trans (suffix_column (Tree.kind_of_belongs h)).isInfix

end Walk

end ClassSpacing
