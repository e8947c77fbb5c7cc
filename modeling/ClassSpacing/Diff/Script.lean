/-!
# Edit scripts

An edit script says how the lines of a new text come from those of an old one: stretches that both
have, stretches of the old one that are deleted, and stretches of the new one that are inserted. A
shortest script is found by dividing: equal lines at both ends are taken away, and what is left is
cut where a search from its beginning and a search from its end meet first.
-/

namespace ClassSpacing.Diff

/-- One stretch of a script. -/
inductive Move where
  /-- Lines that both texts have. -/
  | equal (old new length : Nat)
  /-- Lines of the old text. -/
  | delete (old length new : Nat)
  /-- Lines of the new text. -/
  | insert (old new length : Nat)
deriving Repr, DecidableEq, Inhabited

/-- The two texts, as lines. -/
structure Texts where
  old : Array String
  new : Array String

namespace Texts

/-- The number of equal lines from two places on, at most `limit`. -/
def agreeingFrom (t : Texts) (i j : Nat) : Nat → Nat
  | 0 => 0
  | limit + 1 => if t.old[i]? == t.new[j]? then agreeingFrom t (i + 1) (j + 1) limit + 1 else 0

/-- The number of equal lines up to two places, at most `limit`. -/
def agreeingTo (t : Texts) (i j : Nat) : Nat → Nat
  | 0 => 0
  | limit + 1 =>
    if t.old[i - 1]? == t.new[j - 1]? then agreeingTo t (i - 1) (j - 1) limit + 1 else 0

end Texts

/-- A stretch of the old text and one of the new. -/
structure Box where
  oldStart : Nat
  oldStop : Nat
  newStart : Nat
  newStop : Nat
deriving Repr, DecidableEq

namespace Box

/-- The number of lines of the old text. -/
def oldLength (b : Box) : Nat := b.oldStop - b.oldStart

/-- The number of lines of the new text. -/
def newLength (b : Box) : Nat := b.newStop - b.newStart

end Box

/-! ## Searching for the middle -/

/-- How far a search has come on each diagonal: the number of lines of the old text that it has
    passed there. Diagonals are numbered by the lines of the old text passed less those of the new,
    from `-offset` on. -/
structure Frontier where
  offset : Nat
  reached : Array Nat

namespace Frontier

/-- A search that has not started. -/
def empty (offset : Nat) : Frontier where
  offset
  reached := Array.replicate (2 * offset + 2) 0

/-- How far the search has come on a diagonal. -/
def at_ (f : Frontier) (k : Int) : Nat :=
  f.reached.getD (k + f.offset).toNat 0

/-- The search with a new reach on a diagonal. -/
def set (f : Frontier) (k : Int) (x : Nat) : Frontier :=
  { f with reached := f.reached.setIfInBounds (k + f.offset).toNat x }

/-- Where step `d` of a search starts on a diagonal: from the neighbour that has come further. -/
def entry (f : Frontier) (d : Nat) (k : Int) : Nat :=
  if k == -(d : Int) || (k != d && f.at_ (k - 1) < f.at_ (k + 1)) then f.at_ (k + 1)
  else f.at_ (k - 1) + 1

end Frontier

/-- The diagonals of step `d`, from the highest down. -/
def diagonals (d : Nat) : List Int :=
  (List.range (d + 1)).map fun (i : Nat) => (d : Int) - 2 * (i : Int)

/-- One step of the search from the beginning. It ends early with the place where it meets the
    search from the end. -/
def forward (t : Texts) (b : Box) (d : Nat) (backward : Frontier) :
    List Int → Frontier → Except (Nat × Nat) Frontier
  | [], f => .ok f
  | k :: ks, f =>
    let x₀ := f.entry d k
    let y₀ := ((x₀ : Int) - k).toNat
    let x :=
      if x₀ < b.oldLength && y₀ < b.newLength then
        x₀ + t.agreeingFrom (b.oldStart + x₀) (b.newStart + y₀)
          (min (b.oldLength - x₀) (b.newLength - y₀))
      else
        x₀
    let f := f.set k x
    let delta : Int := (b.oldLength : Int) - b.newLength
    if delta % 2 != 0 && (k - delta).natAbs + 1 ≤ d &&
        b.oldLength ≤ x + backward.at_ (delta - k) then
      .error (x₀ + b.oldStart, y₀ + b.newStart)
    else
      forward t b d backward ks f

/-- One step of the search from the end, likewise. -/
def backward (t : Texts) (b : Box) (d : Nat) (forward : Frontier) :
    List Int → Frontier → Except (Nat × Nat) Frontier
  | [], f => .ok f
  | k :: ks, f =>
    let x₀ := f.entry d k
    let y₀ := ((x₀ : Int) - k).toNat
    let advance :=
      if x₀ < b.oldLength && y₀ < b.newLength then
        t.agreeingTo (b.oldStop - x₀) (b.newStop - y₀) (min (b.oldLength - x₀) (b.newLength - y₀))
      else
        0
    let x := x₀ + advance
    let f := f.set k x
    let delta : Int := (b.oldLength : Int) - b.newLength
    if delta % 2 == 0 && (k - delta).natAbs ≤ d && b.oldLength ≤ x + forward.at_ (delta - k) then
      .error (b.oldStop - x, b.newStop - (y₀ + advance))
    else
      backward t b d forward ks f

/-- Makes steps from both sides until the searches meet. -/
def search (t : Texts) (b : Box) : Nat → Nat → Frontier → Frontier → Option (Nat × Nat)
  | 0, _, _, _ => none
  | budget + 1, d, fromStart, fromEnd =>
    match forward t b d fromEnd (diagonals d) fromStart with
    | .error place => some place
    | .ok fromStart =>
      match backward t b d fromStart (diagonals d) fromEnd with
      | .error place => some place
      | .ok fromEnd => search t b budget (d + 1) fromStart fromEnd

/-- Where to cut a box in two. -/
def middle? (t : Texts) (b : Box) : Option (Nat × Nat) :=
  let budget := (b.oldLength + b.newLength + 1) / 2 + 1
  search t b budget 0 (.empty (budget + 1)) (.empty (budget + 1))

/-! ## Dividing -/

/-- A stretch of equal lines, unless it is empty. -/
def equalMove (old new length : Nat) : List Move :=
  if length = 0 then [] else [.equal old new length]

/-- The script for a box. -/
def conquer (t : Texts) : Nat → Box → List Move
  | 0, _ => []
  | fuel + 1, b =>
    let head := t.agreeingFrom b.oldStart b.newStart (min b.oldLength b.newLength)
    let rest := { b with oldStart := b.oldStart + head, newStart := b.newStart + head }
    let tail := t.agreeingTo rest.oldStop rest.newStop (min rest.oldLength rest.newLength)
    let core := { rest with oldStop := rest.oldStop - tail, newStop := rest.newStop - tail }
    let deletion := Move.delete core.oldStart core.oldLength core.newStart
    let insertion := Move.insert core.oldStart core.newStart core.newLength
    let moves :=
      if core.oldLength = 0 && core.newLength = 0 then []
      else if core.newLength = 0 then [deletion]
      else if core.oldLength = 0 then [insertion]
      else
        match middle? t core with
        | some (x, y) =>
          conquer t fuel { core with oldStop := x, newStop := y } ++
            conquer t fuel { core with oldStart := x, newStart := y }
        | none => [deletion, insertion]
    equalMove b.oldStart b.newStart head ++ moves ++ equalMove core.oldStop core.newStop tail

/-- A shortest script from one text to the other. -/
def script (t : Texts) : List Move :=
  conquer t (t.old.size + t.new.size + 1)
    { oldStart := 0, oldStop := t.old.size, newStart := 0, newStop := t.new.size }

end ClassSpacing.Diff
