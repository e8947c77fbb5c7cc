import ClassSpacing.Rule

/-!
# Moving the nodes of a tree

Inserting or deleting text moves the nodes of a parse tree and leaves the tree as it is otherwise.
`Tree.shift` moves all offsets of a tree. The walks over a tree ask about kinds and names and never
about offsets, so the sites of a moved tree are the moved sites, it has as many faults, and it
declares the same members.
-/

namespace ClassSpacing

/-- A span with both ends moved. -/
def Span.map (move : Nat → Nat) (s : Span) : Span := ⟨move s.start, move s.stop⟩

namespace Tree

mutual

/-- A tree with all offsets moved. -/
def shift (move : Nat → Nat) : Tree → Tree
  | ⟨kind, span, isName, isMissing, hasFault, children⟩ =>
    ⟨kind, span.map move, isName, isMissing, hasFault, shiftList move children⟩

/-- Some trees with all offsets moved. -/
def shiftList (move : Nat → Nat) : List Tree → List Tree
  | [] => []
  | t :: rest => t.shift move :: shiftList move rest

end

variable (move : Nat → Nat) (t : Tree)

theorem shiftList_eq_map (ts : List Tree) : shiftList move ts = ts.map (shift move) := by
  induction ts with
  | nil => rfl
  | cons t rest ih => rw [shiftList, ih, List.map_cons]

@[simp]
theorem kind_shift : (t.shift move).kind = t.kind := by cases t; rfl

@[simp]
theorem span_shift : (t.shift move).span = t.span.map move := by cases t; rfl

@[simp]
theorem hasFault_shift : (t.shift move).hasFault = t.hasFault := by cases t; rfl

@[simp]
theorem children_shift : (t.shift move).children = t.children.map (shift move) := by
  cases t
  exact shiftList_eq_map move _

@[simp]
theorem isNamed_shift : (t.shift move).isNamed = t.isNamed := by cases t; rfl

@[simp]
theorem isFault_shift : (t.shift move).isFault = t.isFault := by cases t; rfl

/-! ## Moving twice, and not at all -/

mutual

theorem shift_shift (move next : Nat → Nat) :
    ∀ t : Tree, (t.shift move).shift next = t.shift (next ∘ move)
  | ⟨kind, span, isName, isMissing, hasFault, children⟩ => by
    rw [shift, shift, shift, shiftList_shiftList move next children]
    rfl

theorem shiftList_shiftList (move next : Nat → Nat) :
    ∀ ts : List Tree, shiftList next (shiftList move ts) = shiftList (next ∘ move) ts
  | [] => rfl
  | t :: rest => by
    rw [shiftList, shiftList, shiftList, shift_shift move next t,
      shiftList_shiftList move next rest]

end

mutual

theorem shift_id : ∀ t : Tree, t.shift id = t
  | ⟨kind, span, isName, isMissing, hasFault, children⟩ => by
    rw [shift, shiftList_id children]
    rfl

theorem shiftList_id : ∀ ts : List Tree, shiftList id ts = ts
  | [] => rfl
  | t :: rest => by rw [shiftList, shift_id t, shiftList_id rest]

end

/-! ## Faults -/

theorem faultsFrom_map_shift (ts : List Tree) :
    faultsFrom (ts.map (shift move)) = (faultsFrom ts).map (Span.map move) := by
  fun_induction faultsFrom ts with
  | case1 => simp [faultsFrom]
  | case2 t rest ih =>
    rw [dite_eq_ite] at ih
    rw [List.map_cons, faultsFrom, List.map_append, ← ih]
    by_cases hfault : t.isFault = true <;> by_cases hhas : t.hasFault = true <;>
      simp [hfault, hhas]

/-- A moved tree has as many faults. -/
theorem length_faults_shift : (t.shift move).faults.length = t.faults.length := by
  have hmap := congrArg List.length (faultsFrom_map_shift move [t])
  rwa [List.length_map] at hmap

end Tree

/-! ## Sites -/

namespace Site

/-- A site in a moved tree. -/
def shift (move : Nat → Nat) (s : Site) : Site where
  node := s.node.shift move
  before := s.before.map (Tree.shift move)
  around := s.around.map (Tree.shift move)

/-- Whether a site declares a constructor or a method of a class declaration. -/
def isClassMember (s : Site) : Bool :=
  s.isDeclaration && !s.isAccessor && s.container == .classBody

/-- The member at a site, whatever its name makes of it. -/
def toMember (s : Site) : Member where
  node := s.node
  head := (decorated (s.node, s.before) s.before).1
  aboveHead := (decorated (s.node, s.before) s.before).2
  body? := s.around.head?
  kind := .method
  container := s.container

end Site

mutual

theorem Tree.sitesIn_shift (move : Nat → Nat) (before around : List Tree) :
    ∀ t : Tree, (t.shift move).sitesIn (before.map (shift move)) (around.map (shift move)) =
      (t.sitesIn before around).map (Site.shift move)
  | ⟨kind, span, isName, isMissing, hasFault, children⟩ => by
    have hchildren := Tree.sitesInList_shift move
      (⟨kind, span, isName, isMissing, hasFault, children⟩ :: around) [] children
    rw [← Tree.shiftList_eq_map move children] at hchildren
    exact congrArg (_ :: ·) hchildren

theorem Tree.sitesInList_shift (move : Nat → Nat) (around before : List Tree) :
    ∀ ts : List Tree,
      Tree.sitesInList (around.map (shift move)) (before.map (shift move)) (ts.map (shift move)) =
        (Tree.sitesInList around before ts).map (Site.shift move)
  | [] => rfl
  | t :: rest => by
    have hhere := Tree.sitesIn_shift move before around t
    have hrest := Tree.sitesInList_shift move around (t :: before) rest
    have hskip := Tree.sitesInList_shift move around before rest
    rw [List.map_cons] at hrest
    rw [List.map_cons, Tree.sitesInList, Tree.sitesInList, Tree.isNamed_shift]
    split
    · rw [hhere, hrest, List.map_append]
    · exact hskip

end

/-- The sites of a moved tree are the moved sites. -/
theorem Tree.sites_shift (move : Nat → Nat) (t : Tree) :
    (t.shift move).sites = t.sites.map (Site.shift move) :=
  Tree.sitesIn_shift move [] [] t

/-! ## Members -/

/-- A member in a moved tree. -/
def Member.shift (move : Nat → Nat) (m : Member) : Member where
  node := m.node.shift move
  head := m.head.shift move
  aboveHead := m.aboveHead.map (Tree.shift move)
  body? := m.body?.map (Tree.shift move)
  kind := m.kind
  container := m.container

theorem Member.shift_shift (move next : Nat → Nat) (m : Member) :
    (m.shift move).shift next = m.shift (next ∘ move) := by
  have hcomp : Tree.shift next ∘ Tree.shift move = Tree.shift (next ∘ move) :=
    funext (Tree.shift_shift move next)
  simp [shift, Tree.shift_shift, hcomp]

theorem Member.shift_id (m : Member) : m.shift id = m := by
  have hid : Tree.shift id = id := funext Tree.shift_id
  simp [shift, hid]

theorem Member.isFirst_shift (move : Nat → Nat) (m : Member) :
    (m.shift move).isFirst = m.isFirst := by
  simp [isFirst, shift, Function.comp_def]

/-- The members of the class declarations of a tree. -/
def Tree.classMembers (t : Tree) : List Member :=
  (t.sites.filter Site.isClassMember).map Site.toMember

namespace Site

variable (move : Nat → Nat) (s : Site)

theorem isClassMember_shift : (s.shift move).isClassMember = s.isClassMember := by
  have hkinds : (s.shift move).around.map Tree.kind = s.around.map Tree.kind := by
    simp [shift, Function.comp_def]
  have hcontainer : (s.shift move).container = s.container := by
    simp only [container, hkinds]
  have hdeclaration : (s.shift move).isDeclaration = s.isDeclaration := by
    simp [isDeclaration, shift]
  have haccessor : (s.shift move).isAccessor = s.isAccessor := by
    simp [isAccessor, shift, List.any_map, Function.comp_def]
  rw [isClassMember, isClassMember, hcontainer, hdeclaration, haccessor]

theorem decorated_shift (best : Tree × List Tree) (above : List Tree) :
    decorated (best.1.shift move, best.2.map (Tree.shift move)) (above.map (Tree.shift move)) =
      ((decorated best above).1.shift move, (decorated best above).2.map (Tree.shift move)) := by
  induction above generalizing best with
  | nil => rfl
  | cons t rest ih =>
    rw [List.map_cons, decorated, decorated, Tree.kind_shift]
    split
    · exact ih (t, rest)
    · exact ih best
    · rfl

theorem toMember_shift : (s.shift move).toMember = s.toMember.shift move := by
  have hkinds : (s.shift move).around.map Tree.kind = s.around.map Tree.kind := by
    simp [shift, Function.comp_def]
  have hcontainer : (s.shift move).container = s.container := by
    simp only [container, hkinds]
  have hdecorated := decorated_shift move (s.node, s.before) s.before
  simp only [toMember, Member.shift, hcontainer, Member.mk.injEq, and_true]
  simp only [shift] at hdecorated ⊢
  simp [hdecorated]

end Site

/-- A moved tree declares the moved members. -/
theorem Tree.classMembers_shift (move : Nat → Nat) (t : Tree) :
    (t.shift move).classMembers = t.classMembers.map (Member.shift move) := by
  have hkeep : Site.isClassMember ∘ Site.shift move = Site.isClassMember :=
    funext (Site.isClassMember_shift move)
  have hmember : Site.toMember ∘ Site.shift move = Member.shift move ∘ Site.toMember :=
    funext (Site.toMember_shift move)
  rw [classMembers, sites_shift, List.filter_map, hkeep, List.map_map, hmember, classMembers,
    List.map_map]

namespace Rule

/-- The rule looks at the members of class declarations, and not at their names. -/
theorem verdicts_eq_map (rule : Rule) (source : Text) (t : Tree) :
    rule.verdicts source t = t.classMembers.map (rule.examine source (.ofText source)) := by
  simp only [verdicts, Tree.members, Tree.classMembers, List.map_map]
  induction t.sites with
  | nil => rfl
  | cons s rest ih =>
    obtain ⟨m, hmember, hcontainer, hexamine⟩ : ∃ m : Member,
        s.member? source = (if s.isDeclaration && !s.isAccessor then some m else none) ∧
        m.container = s.container ∧ rule.examine source (.ofText source) m =
          rule.examine source (.ofText source) s.toMember := ⟨_, rfl, rfl, rfl⟩
    rw [List.filterMap_cons, hmember]
    by_cases hdeclares : (s.isDeclaration && !s.isAccessor) = true
    · by_cases hclass : (s.container == .classBody) = true
      · have htrue : s.isClassMember = true := by rw [Site.isClassMember, hdeclares, hclass]; rfl
        simp [hdeclares, hcontainer, hclass, htrue, hexamine, ih]
      · have hfalse : s.isClassMember = false := by simp [Site.isClassMember, hclass]
        simp [hdeclares, hcontainer, hclass, hfalse, ih]
    · have hfalse : s.isClassMember = false := by simp [Site.isClassMember, hdeclares]
      simp [hdeclares, hfalse, ih]

end Rule

end ClassSpacing
