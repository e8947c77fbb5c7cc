import ClassSpacing.Digest
import ClassSpacing.Path
import ClassSpacing.Workspace.Fault

/-!
# Verified edits

An `Edit` replaces the bytes between two offsets of a file, and remembers what they were when it was
made. It applies only where they still are what they were, or where the replacement already stands.
Long spans are remembered by a digest.
-/

namespace ClassSpacing

/-- What a span must hold for an edit of it to go ahead. -/
inductive Expectation where
  | exactly (text : Text)
  | digest (value : UInt64)
deriving Repr, DecidableEq

namespace Expectation

/-- Spans of more bytes than this are remembered by their digest. -/
def digestThreshold : Nat := 1024

/-- The expectation to find a text. -/
def ofText (t : Text) : Expectation :=
  if t.byteLength > digestThreshold then digest (Digest.xxh3 (Utf8.encode t)) else exactly t

/-- Whether a text is what is expected. -/
def isMet (e : Expectation) (t : Text) : Bool :=
  match e with
  | exactly expected => expected == t
  | digest value => value == Digest.xxh3 (Utf8.encode t)

end Expectation

/-- The replacement of the bytes from `start` to `stop` of a file. -/
structure Edit where
  file : Path
  start : Nat
  stop : Nat
  newText : Text
  expected : Expectation
deriving Repr, DecidableEq

/-- Why an edit does not apply. -/
inductive EditError where
  /-- The span holds neither the expected nor the new text. -/
  | changed (file : Path) (start stop : Nat) (found : Text)
  /-- The span is inverted or leaves the text. -/
  | outOfRange (start stop length : Nat)
  /-- An end of the span falls inside a character. -/
  | splitsCharacter
  | notUtf8 (fault : Utf8.Fault)
  | store (fault : FileFault)
deriving Repr, DecidableEq

/-- The words for a failed edit. -/
def EditError.message : EditError → String
  | changed file start stop _ =>
    s!"{file.text} changed at bytes {start}..{stop} since it was linted"
  | outOfRange start stop length =>
    s!"byte range {start}..{stop} is outside a {length}-byte file"
  | splitsCharacter => "byte range does not fall on character boundaries"
  | notUtf8 fault => s!"file is not valid UTF-8: {fault.message}"
  | store fault => fault.message

namespace Edit

/-- An edit that expects the span to hold the text `before`. -/
def make (file : Path) (start stop : Nat) (newText before : Text) : Edit :=
  { file, start, stop, newText, expected := .ofText before }

/-- How the span of an edit stands. -/
inductive Status where
  /-- It holds what is expected. -/
  | pending
  /-- It already holds the new text. -/
  | done
deriving Repr, DecidableEq

/-- Looks at the span of an edit. The span has to lie in the text, and on character boundaries,
    before what it holds is looked at. -/
def inspect (e : Edit) (content : Text) : Except EditError Status :=
  if e.start > e.stop || e.stop > content.byteLength then
    .error (.outOfRange e.start e.stop content.byteLength)
  else
    match content.slice? e.start e.stop with
    | none => .error .splitsCharacter
    | some found =>
      if found = e.newText then .ok .done
      else if e.expected.isMet found then .ok .pending
      else .error (.changed e.file e.start e.stop found)

/-- The text with the bytes from `start` to `stop` replaced, where both are boundaries. -/
def splice (content : Text) (start stop : Nat) (newText : Text) : Text :=
  let before := (content.splitAt? start).elim [] (·.1)
  let after := (content.after? stop).getD []
  before ++ newText ++ after

/-- Applies an edit to a text. A text whose span already holds the new text stays as it is. -/
def applyTo (e : Edit) (content : Text) : Except EditError Text := do
  match ← e.inspect content with
  | .done => return content
  | .pending => return splice content e.start e.stop e.newText

end Edit

end ClassSpacing
