import ClassSpacing.Proofs.Tree.Sites

/-!
# The search for faults, step by step

A `Cursor` stands at a node of a tree and moves to the first child, to the next sibling or to the
parent, and never leaves the tree that it was put on. The search for faults makes nothing but such
moves: it goes down into marked nodes only, and where it cannot go down it climbs until there is a
next sibling. What it has yet to visit is always the list that `Tree.faultsFrom` works on, and gets
smaller with each round. So the search ends, with the faults that `Tree.faults` lists; and where the
marks are right, these are all faults of the tree.
-/

namespace ClassSpacing

/-- A place in a tree. -/
structure Cursor where
  node : Tree
  /-- The siblings behind the node. -/
  behind : List Tree
  /-- The nodes around it, innermost first, each with the siblings behind it. -/
  around : List (Tree × List Tree)

namespace Cursor

variable {c d : Cursor}

/-- The place of a whole tree. -/
def top (t : Tree) : Cursor := ⟨t, [], []⟩

/-! ## Moves -/

def firstChild? (c : Cursor) : Option Cursor :=
  match c.node.children with
  | [] => none
  | t :: rest => some ⟨t, rest, (c.node, c.behind) :: c.around⟩

def nextSibling? (c : Cursor) : Option Cursor :=
  match c.behind with
  | [] => none
  | t :: rest => some ⟨t, rest, c.around⟩

def parent? (c : Cursor) : Option Cursor :=
  match c.around with
  | [] => none
  | (t, behind) :: outer => some ⟨t, behind, outer⟩

theorem length_around_parent? (h : c.parent? = some d) : d.around.length < c.around.length := by
  unfold parent? at h
  split at h
  · cases h
  · next haround =>
    cases h
    simp [haround]

/-- The next sibling of a node, or of the innermost node around it that has one. -/
def leave? (c : Cursor) : Option Cursor :=
  match c.nextSibling? with
  | some d => some d
  | none =>
    match _h : c.parent? with
    | some p => p.leave?
    | none => none
termination_by c.around.length
decreasing_by exact length_around_parent? _h

/-- The next place of the search: the first child of a marked node, if it has one, and otherwise the
    next place that is not below the node. -/
def advance? (c : Cursor) : Option Cursor :=
  if c.node.hasFault then c.firstChild?.or c.leave? else c.leave?

section

variable (node t : Tree) (behind : List Tree) (outer : List (Tree × List Tree))

theorem leave?_sibling : leave? ⟨node, t :: behind, outer⟩ = some ⟨t, behind, outer⟩ := by
  rw [leave?]
  rfl

theorem leave?_climb : leave? ⟨node, [], (t, behind) :: outer⟩ = leave? ⟨t, behind, outer⟩ := by
  rw [leave?]
  rfl

theorem leave?_top : leave? ⟨node, [], []⟩ = none := by
  rw [leave?]
  rfl

end

/-! ## What is yet to be visited -/

/-- The trees behind a node and behind the nodes around it. -/
def rest (c : Cursor) : List Tree := c.behind ++ c.around.flatMap (·.2)

/-- The trees that a walk in the order of the source has yet to visit. -/
def ahead (c : Cursor) : List Tree := c.node :: c.rest

/-- Leaving a node leads to the first of the trees behind it, if there are any. -/
theorem ahead_leave? (c : Cursor) : c.leave?.elim [] ahead = c.rest := by
  obtain ⟨node, behind, around⟩ := c
  induction around generalizing node behind with
  | nil =>
    cases behind with
    | nil => rw [leave?_top]; rfl
    | cons t behind => rw [leave?_sibling]; rfl
  | cons entry outer ih =>
    cases behind with
    | nil => rw [leave?_climb, ih]; rfl
    | cons t behind => rw [leave?_sibling]; rfl

/-- A round of the search puts the children of a marked node in the place of the node. -/
theorem ahead_advance? (c : Cursor) :
    c.advance?.elim [] ahead = if c.node.hasFault then c.node.children ++ c.rest else c.rest := by
  unfold advance?
  split
  · unfold firstChild?
    split
    · next hchildren => rw [hchildren, Option.none_or, List.nil_append, ahead_leave?]
    · next t rest hchildren => simp [hchildren, ahead, Cursor.rest]
  · exact ahead_leave? c

theorem faultsFrom_ahead (c : Cursor) :
    Tree.faultsFrom c.ahead = (if c.node.isFault then [c.node.span] else []) ++
      Tree.faultsFrom (c.advance?.elim [] ahead) := by
  rw [ahead_advance?, ahead, Tree.faultsFrom]

/-- There is less to visit after each round. -/
theorem sizeList_advance? (h : c.advance? = some d) :
    Tree.sizeList d.ahead < Tree.sizeList c.ahead := by
  have hahead := ahead_advance? c
  rw [h, Option.elim_some] at hahead
  rw [hahead, ahead, Tree.sizeList, Tree.size_eq]
  split
  · rw [Tree.sizeList_append]
    omega
  · omega

/-! ## The search -/

/-- The faults found so far, and the node if it is one. -/
def note (c : Cursor) (found : List Span) : List Span :=
  if c.node.isFault then found ++ [c.node.span] else found

/-- A search that has found some faults and comes to a place goes on through the places `visited`,
    this one first, and ends with the faults `result`. -/
inductive Searches : Cursor → List Span → List Cursor → List Span → Prop
  | last {c : Cursor} {found : List Span} (h : c.advance? = none) :
      Searches c found [c] (c.note found)
  | next {c d : Cursor} {found result : List Span} {visited : List Cursor}
      (h : c.advance? = some d) (hd : Searches d (c.note found) visited result) :
      Searches c found (c :: visited) result

variable {found result : List Span} {visited : List Cursor}

/-- Every search ends, and takes no more rounds than there are nodes to visit. -/
theorem exists_searches (c : Cursor) (found : List Span) :
    ∃ visited result, c.Searches found visited result ∧
      visited.length ≤ Tree.sizeList c.ahead := by
  induction hsize : Tree.sizeList c.ahead using Nat.strongRecOn generalizing c found with
  | ind n ih =>
    subst hsize
    cases hnext : c.advance? with
    | none =>
      refine ⟨[c], _, .last hnext, ?_⟩
      rw [ahead, Tree.sizeList, Tree.size_eq, List.length_singleton]
      omega
    | some d =>
      have hless := sizeList_advance? hnext
      obtain ⟨visited, result, hd, hlength⟩ := ih _ hless d (c.note found) rfl
      refine ⟨c :: visited, result, .next hnext hd, ?_⟩
      rw [List.length_cons]
      omega

/-- A search adds the faults of the trees that it has yet to visit. -/
theorem Searches.result_eq (h : c.Searches found visited result) :
    result = found ++ Tree.faultsFrom c.ahead := by
  have hnote : ∀ (c : Cursor) (found : List Span),
      c.note found = found ++ if c.node.isFault then [c.node.span] else [] := by
    intro c found
    unfold note
    split <;> simp
  induction h with
  | @last c found hnext =>
    rw [hnote, faultsFrom_ahead c, hnext, Option.elim_none, Tree.faultsFrom, List.append_nil]
  | @next c d found result visited hnext _ ih =>
    rw [ih, hnote, faultsFrom_ahead c, hnext, Option.elim_some, List.append_assoc]

/-- All nodes around a place are marked. -/
def IsBelowMarks (c : Cursor) : Prop := ∀ entry ∈ c.around, entry.1.hasFault = true

theorem IsBelowMarks.leave? (hc : c.IsBelowMarks) (h : c.leave? = some d) : d.IsBelowMarks := by
  obtain ⟨node, behind, around⟩ := c
  induction around generalizing node behind with
  | nil =>
    cases behind with
    | nil => simp [leave?_top] at h
    | cons t behind =>
      rw [leave?_sibling] at h
      cases h
      exact hc
  | cons entry outer ih =>
    cases behind with
    | nil =>
      rw [leave?_climb] at h
      exact ih entry.1 entry.2 (fun e he => hc e (List.mem_cons_of_mem _ he)) h
    | cons t behind =>
      rw [leave?_sibling] at h
      cases h
      exact hc

theorem IsBelowMarks.advance? (hc : c.IsBelowMarks) (h : c.advance? = some d) :
    d.IsBelowMarks := by
  unfold Cursor.advance? at h
  split at h
  · next hmark =>
    unfold firstChild? at h
    split at h
    · exact hc.leave? h
    · cases h
      exact List.forall_mem_cons.2 ⟨hmark, hc⟩
  · exact hc.leave? h

/-- A search never goes below a node that is not marked. -/
theorem Searches.isBelowMarks (h : c.Searches found visited result) (hc : c.IsBelowMarks) :
    ∀ d ∈ visited, d.IsBelowMarks := by
  induction h with
  | last => exact List.forall_mem_singleton.2 hc
  | next hnext _ ih => exact List.forall_mem_cons.2 ⟨hc, ih (hc.advance? hnext)⟩

end Cursor

/-! ## All faults -/

theorem Reader.validate_eq_ok_iff {read : Reader} {dialect : Dialect} {source : Text} :
    read.validate dialect source = .ok () ↔ (read dialect source).faults = [] := by
  unfold validate
  rcases (read dialect source).faults with _ | ⟨span, _ | ⟨other, spans⟩⟩ <;> simp

namespace Tree

/-- A tree with the right marks is marked exactly if it has a fault. -/
theorem MarksFaults.faults_eq_nil_iff {t : Tree} (h : t.MarksFaults) :
    t.faults = [] ↔ t.hasFault = false := by
  rw [h.faults_eq, List.map_eq_nil_iff, List.filter_eq_nil_iff, h t (mem_nodes_self t),
    List.any_eq_false]

/-- In a tree with the right marks, the search for faults ends after at most as many rounds as the
    tree has nodes and without going below a node that is not marked. It finds the faults of the
    whole tree, each once and a node before those below it. There are none exactly if the tree is
    not marked, and exactly then a source with that tree is accepted. -/
theorem search_finds_all_faults {t : Tree} (h : t.MarksFaults) :
    (∃ visited, (Cursor.top t).Searches [] visited t.faults ∧ visited.length ≤ t.size ∧
      ∀ c ∈ visited, c.IsBelowMarks) ∧
    (∀ visited result, (Cursor.top t).Searches [] visited result →
      result = (t.nodes.filter isFault).map span) ∧
    t.faults = (t.nodes.filter isFault).map span ∧
    (t.faults = [] ↔ t.hasFault = false) ∧
    ∀ (read : Reader) dialect source, read dialect source = t →
      (read.validate dialect source = .ok () ↔ t.hasFault = false) := by
  have hresult : ∀ visited result, (Cursor.top t).Searches [] visited result →
      result = t.faults := by
    intro visited result hsearch
    exact hsearch.result_eq
  refine ⟨?_, ?_, h.faults_eq, h.faults_eq_nil_iff, ?_⟩
  · obtain ⟨visited, result, hsearch, hlength⟩ := (Cursor.top t).exists_searches []
    obtain rfl := hresult visited result hsearch
    refine ⟨visited, hsearch, hlength, hsearch.isBelowMarks ?_⟩
    simp [Cursor.IsBelowMarks, Cursor.top]
  · intro visited result hsearch
    rw [hresult visited result hsearch, h.faults_eq]
  · rintro read dialect source rfl
    rw [Reader.validate_eq_ok_iff, h.faults_eq_nil_iff]

end Tree

/-! ## Faults inside and behind each other -/

namespace Broken

/-- A tree with a fault inside a fault, a missing token some levels down, and a part without faults
    before and between them. -/
def tree : Tree :=
  .ofChildren .program ⟨0, 20⟩ [
    .ofChildren (.other "empty_statement") ⟨0, 1⟩ [{ kind := .word ";", span := ⟨0, 1⟩ }],
    .ofChildren .error ⟨1, 8⟩ [
      { kind := .word "(", span := ⟨1, 2⟩ },
      { kind := .error, span := ⟨4, 6⟩, hasFault := true }],
    .ofChildren (.other "statement_block") ⟨8, 14⟩ [
      .ofChildren (.other "empty_statement") ⟨9, 10⟩ [{ kind := .word ";", span := ⟨9, 10⟩ }],
      .ofChildren (.other "arguments") ⟨10, 13⟩ [
        { kind := .word ")", span := ⟨13, 13⟩, isMissing := true, hasFault := true }]],
    { kind := .error, span := ⟨14, 20⟩, hasFault := true }]

/-- The search finds the inner fault behind the outer one, and climbs from the missing token to the
    last fault. -/
theorem search_finds_all_faults_broken :
    tree.MarksFaults ∧
      (∃ visited, (Cursor.top tree).Searches [] visited [⟨1, 8⟩, ⟨4, 6⟩, ⟨13, 13⟩, ⟨14, 20⟩] ∧
        visited.length ≤ 12 ∧ ∀ c ∈ visited, c.IsBelowMarks) ∧
      Reader.validate (fun _ _ => tree) .typeScript [] ≠ .ok () := by
  have hmarks : tree.MarksFaults := by
    unfold Tree.MarksFaults
    decide
  obtain ⟨hends, -, hfaults, -, haccepts⟩ := Tree.search_finds_all_faults hmarks
  have hspans : (tree.nodes.filter Tree.isFault).map Tree.span =
      [⟨1, 8⟩, ⟨4, 6⟩, ⟨13, 13⟩, ⟨14, 20⟩] := by decide
  rw [hfaults, hspans] at hends
  refine ⟨hmarks, hends, fun hok => ?_⟩
  have hmark := (haccepts _ _ _ rfl).1 hok
  exact absurd hmark (by decide)

end Broken

end ClassSpacing
