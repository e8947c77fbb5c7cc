import ClassSpacing.Diff.Script

/-!
# Settling a script

Of the shortest scripts one is chosen in which insertions stand as low as they can: an insertion
moves up over equal lines as long as the last inserted line is the one above, joins what it meets,
and then moves down likewise. Deletions stay where they are, apart from changing places with
insertions. At last, deletions and insertions that touch become one change.
-/

namespace ClassSpacing.Diff

/-- A script with a mark on one of its stretches. -/
structure Marked where
  /-- The stretches before the mark, the nearest first. -/
  above : List Move
  marked : Move
  /-- The stretches behind the mark. -/
  below : List Move

namespace Move

/-- Whether a stretch is empty. -/
def isEmpty : Move → Bool
  | equal _ _ length | delete _ length _ | insert _ _ length => length == 0

/-- A stretch with `count` more lines at the end. -/
def growDown (count : Nat) : Move → Move
  | equal old new length => equal old new (length + count)
  | delete old length new => delete old (length + count) new
  | insert old new length => insert old new (length + count)

/-- The length of a stretch. -/
def length : Move → Nat
  | equal _ _ length | delete _ length _ | insert _ _ length => length

end Move

/-- Puts a stretch on a list, unless it is empty. -/
def consUnlessEmpty (m : Move) (ms : List Move) : List Move :=
  if m.isEmpty then ms else m :: ms

/-- Puts `count` equal lines, which end at the given places, before what is below. -/
def growUp (old new count : Nat) : List Move → List Move
  | .equal o n length :: rest => .equal (o - count) (n - count) (length + count) :: rest
  | below => .equal (old - count) (new - count) count :: below

/-- Puts `count` equal lines, which start at the given places, behind what is above. -/
def growAbove (old new count : Nat) : List Move → List Move
  | .equal o n length :: rest => .equal o n (length + count) :: rest
  | above => .equal old new count :: above

/-- Moves the marked stretch up as far as it goes. -/
def raise (t : Texts) : Nat → Marked → Marked
  | 0, s => s
  | fuel + 1, s =>
    match s.marked, s.above with
    | .insert old new length, .equal o n len :: above =>
      let count := t.agreeingTo (o + len) (new + length) (min len length)
      if count = 0 then
        if len = 0 then raise t fuel { s with above } else s
      else
        raise t fuel {
          above := consUnlessEmpty (.equal o n (len - count)) above
          marked := .insert (old - count) (new - count) length
          below := growUp (o + len) (new + length) count s.below }
    | .delete .., .equal _ _ len :: above =>
      if len = 0 then raise t fuel { s with above } else s
    | .insert .., .insert o n len :: above =>
      raise t fuel { s with above, marked := .insert o n (len + s.marked.length) }
    | .delete .., .delete o len n :: above =>
      raise t fuel { s with above, marked := .delete o (len + s.marked.length) n }
    | _, m :: above => raise t fuel { s with above, below := m :: s.below }
    | _, [] => s

/-- Moves the marked stretch down as far as it goes. -/
def lower (t : Texts) : Nat → Marked → Marked
  | 0, s => s
  | fuel + 1, s =>
    match s.marked, s.below with
    | .insert old new length, .equal o n len :: below =>
      let count := t.agreeingFrom o new (min len length)
      if count = 0 then
        if len = 0 then lower t fuel { s with below } else s
      else
        lower t fuel {
          above := growAbove o new count s.above
          marked := .insert (old + count) (new + count) length
          below := consUnlessEmpty (.equal (o + count) (n + count) (len - count)) below }
    | .delete .., .equal _ _ len :: below =>
      if len = 0 then lower t fuel { s with below } else s
    | .insert .., .insert _ _ len :: below | .delete .., .delete _ len _ :: below =>
      lower t fuel { s with below, marked := s.marked.growDown len }
    | _, m :: below => lower t fuel { s with below, above := m :: s.above }
    | _, [] => s

/-- Settles the stretches that are asked for, from the first to the last. `above` holds those that
    are done, the latest first. -/
def settleBelow (t : Texts) (wanted : Move → Bool) : Nat → List Move → List Move → List Move
  | 0, above, below => above.reverse ++ below
  | _ + 1, above, [] => above.reverse
  | fuel + 1, above, m :: below =>
    if wanted m then
      let reach := t.old.size + t.new.size + above.length + below.length + 1
      let s := lower t reach (raise t reach ⟨above, m, below⟩)
      settleBelow t wanted fuel (s.marked :: s.above) s.below
    else
      settleBelow t wanted fuel (m :: above) below

/-- Settles deletions and then insertions. -/
def settle (t : Texts) (moves : List Move) : List Move :=
  let isDeletion : Move → Bool
    | .delete .. => true
    | _ => false
  let isInsertion : Move → Bool
    | .insert .. => true
    | _ => false
  let fuel := t.old.size + t.new.size + moves.length + 1
  settleBelow t isInsertion fuel [] (settleBelow t isDeletion fuel [] moves)

/-! ## Changes -/

/-- A stretch of equal lines, or of lines that are replaced by others. -/
inductive Change where
  | equal (old new length : Nat)
  | replace (old oldLength new newLength : Nat)
deriving Repr, DecidableEq, Inhabited

/-- A script in which stretches of one kind that touch are one. -/
def changes : List Move → List Change
  | [] => []
  | m :: ms =>
    match m, changes ms with
    | .equal old new length, .equal _ _ more :: rest => .equal old new (length + more) :: rest
    | .equal old new length, rest => .equal old new length :: rest
    | .delete old length _, .replace _ len new newLen :: rest =>
      .replace old (length + len) new newLen :: rest
    | .delete old length new, rest => .replace old length new 0 :: rest
    | .insert _ new length, .replace old oldLen _ len :: rest =>
      .replace old oldLen new (length + len) :: rest
    | .insert old new length, rest => .replace old 0 new length :: rest

/-! ## Groups -/

/-- The equal lines at the beginning of a script, cut down to the last `context` ones. -/
def cutHead (context : Nat) : List Change → List Change
  | .equal old new length :: rest =>
    let cut := length - context
    .equal (old + cut) (new + cut) (length - cut) :: rest
  | cs => cs

/-- The equal lines at the end of a script, cut down to the first `context` ones. -/
def cutTail (context : Nat) (cs : List Change) : List Change :=
  match cs.reverse with
  | .equal old new length :: rest => (Change.equal old new (min length context) :: rest).reverse
  | _ => cs

/-- Divides a script at its long stretches of equal lines. `group` holds what is in the group so
    far, the latest first. -/
def divide (context : Nat) (group : List Change) : List Change → List (List Change)
  | [] =>
    match group with
    | [] | [.equal ..] => []
    | _ => [group.reverse]
  | .equal old new length :: rest =>
    if 2 * context < length then
      (Change.equal old new context :: group).reverse ::
        divide context
          [.equal (old + (length - context)) (new + (length - context)) context] rest
    else
      divide context (.equal old new length :: group) rest
  | c :: rest => divide context (c :: group) rest

/-- The changes in groups, each with up to `context` equal lines around it. -/
def groups (context : Nat) (t : Texts) : List (List Change) :=
  divide context [] (cutTail context (cutHead context (changes (settle t (script t)))))

end ClassSpacing.Diff
