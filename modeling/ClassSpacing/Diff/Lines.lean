import ClassSpacing.Diff.Settle
import ClassSpacing.Text.Basic

/-!
# Differences line by line

The differences between two texts as lines to show: lines that stay, lines that go and lines that
come. A line ends in a line feed, a carriage return, or both, and keeps its end.
-/

namespace ClassSpacing.Diff

/-- The lines of a text. `line` holds the characters of the line so far, the latest first. -/
def linesFrom (line : List Char) : Text → List String
  | [] => if line.isEmpty then [] else [String.ofList line.reverse]
  | '\r' :: '\n' :: rest => String.ofList ('\n' :: '\r' :: line).reverse :: linesFrom [] rest
  | c :: rest =>
    if c = '\r' || c = '\n' then
      String.ofList (c :: line).reverse :: linesFrom [] rest
    else
      linesFrom (c :: line) rest

/-- The lines of a text, with their ends. -/
def lines (t : Text) : List String :=
  linesFrom [] t

/-- Whether a line has no end. -/
def isUnfinished (line : String) : Bool :=
  match line.toList.getLast? with
  | some '\r' | some '\n' => false
  | _ => true

/-- What becomes of a line. -/
inductive Fate where
  | stays
  | goes
  | comes
deriving Repr, DecidableEq

/-- Some lines of a text. -/
def stretch (lines : Array String) (start length : Nat) : List String :=
  (lines.extract start (start + length)).toList

/-- The lines of a change. -/
def changeLines (t : Texts) : Change → List (Fate × String)
  | .equal old _ length => (stretch t.old old length).map (.stays, ·)
  | .replace old oldLength new newLength =>
    (stretch t.old old oldLength).map (.goes, ·) ++ (stretch t.new new newLength).map (.comes, ·)

/-- The differences between two texts, in groups of lines. -/
def differences (context : Nat) (old new : Text) : List (List (Fate × String)) :=
  let t : Texts := { old := (lines old).toArray, new := (lines new).toArray }
  (groups context t).map (·.flatMap (changeLines t))

end ClassSpacing.Diff
