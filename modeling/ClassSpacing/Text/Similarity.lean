/-!
# Similar words

How alike two words are, after Jaro: characters match if they are equal and not further apart than
half the longer word; the measure is the mean of the share of matching characters in either word and
of the share of those that stand in the same order in both. It is kept as an exact quotient.
-/

namespace ClassSpacing.Similarity

/-- Marks the first free character equal to `c` between two indices, where the list starts at index
    `at_`. -/
def takeFirst? (c : Char) (low high : Nat) (at_ : Nat) :
    List (Char × Bool) → Option (List (Char × Bool))
  | [] => none
  | (d, taken) :: rest =>
    if low ≤ at_ && at_ ≤ high && d == c && !taken then
      some ((d, true) :: rest)
    else
      ((d, taken) :: ·) <$> takeFirst? c low high (at_ + 1) rest

/-- Matches the characters of one word, from index `at_` on, with those of another: the matching
    characters of the first, and the second with its marks. -/
def matchFrom (reach : Nat) (at_ : Nat) (other : List (Char × Bool)) :
    List Char → List Char × List (Char × Bool)
  | [] => ([], other)
  | c :: rest =>
    match takeFirst? c (at_ - reach) (at_ + reach) 0 other with
    | some marked =>
      let (found, marked) := matchFrom reach (at_ + 1) marked rest
      (c :: found, marked)
    | none => matchFrom reach (at_ + 1) other rest

/-- How alike two words are, as a quotient, between nothing and three. -/
def score (a b : List Char) : Nat × Nat :=
  if a.isEmpty || b.isEmpty then
    (if a.isEmpty && b.isEmpty then 3 else 0, 1)
  else
    let reach := max a.length b.length / 2 - 1
    let (left, marked) := matchFrom reach 0 (b.map (·, false)) a
    let right := marked.filterMap fun (c, taken) => if taken then some c else none
    let count := left.length
    if count = 0 then
      (0, 1)
    else
      let swaps := ((left.zip right).countP fun (c, d) => c != d) / 2
      (count * count * b.length + count * count * a.length + (count - swaps) * a.length * b.length,
        count * a.length * b.length)

/-- Whether one score is at most another. -/
def atMost (s t : Nat × Nat) : Bool :=
  s.1 * t.2 ≤ t.1 * s.2

/-- Words that are more alike than seven tenths are similar. -/
def isSimilar (s : Nat × Nat) : Bool :=
  21 * s.2 < 10 * s.1

/-- The words that are similar to a word, the most similar one last. -/
def similarTo (word : String) (words : List String) : List String :=
  let scored := words.map fun w => (w, score word.toList w.toList)
  ((scored.filter fun (_, s) => isSimilar s).mergeSort fun x y => atMost x.2 y.2).map (·.1)

end ClassSpacing.Similarity
