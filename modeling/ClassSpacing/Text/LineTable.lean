import ClassSpacing.Text.Basic

/-!
# Lines of a text

A `LineTable` holds the byte offsets at which the lines of a text start: zero, and one past each
line feed. It is built once for a text and answers which line an offset is on, what a line says
without its terminator, and which terminator inserted lines should have.
-/

namespace ClassSpacing

/-- A place in a text, counted from zero. -/
structure Position where
  line : Nat
  /-- Characters, not bytes, since the start of the line. -/
  character : Nat
  /-- Bytes since the start of the text. -/
  offset : Nat
deriving Repr, DecidableEq, Inhabited

/-- The line starts of one text. -/
structure LineTable where
  starts : List Nat
  /-- Whether lines end in a carriage return and a line feed, judged by the first one. -/
  crlf : Bool
deriving Repr, DecidableEq, Inhabited

namespace LineTable

/-- The offsets one past each line feed of a text that starts at `offset`. -/
def startsAfter (offset : Nat) : Text → List Nat
  | [] => []
  | c :: rest =>
    if c = '\n' then
      (offset + c.utf8Size) :: startsAfter (offset + c.utf8Size) rest
    else
      startsAfter (offset + c.utf8Size) rest

/-- Whether the first line feed of a text follows a carriage return. -/
def endsLinesWithReturn (t : Text) : Bool :=
  let firstLine := t.takeWhile (· != '\n')
  firstLine.length < t.length && firstLine.getLast? == some '\r'

/-- The line table of a text. -/
def ofText (t : Text) : LineTable where
  starts := 0 :: startsAfter 0 t
  crlf := endsLinesWithReturn t

/-- The number of lines; a text has one more than it has line feeds. -/
def lineCount (table : LineTable) : Nat :=
  table.starts.length

/-- The line that holds a byte offset. -/
def lineOf (table : LineTable) (offset : Nat) : Nat :=
  table.starts.countP (· ≤ offset) - 1

/-- The byte offset at which a line starts. -/
def lineStart? (table : LineTable) (line : Nat) : Option Nat :=
  table.starts[line]?

/-- What a line says, without its terminator. -/
def lineText? (table : LineTable) (t : Text) (line : Nat) : Option Text := do
  let start ← table.lineStart? line
  let stop := match table.lineStart? (line + 1) with
    | some next => next - 1
    | none => t.byteLength
  let raw ← t.slice? start stop
  return raw.dropTrailingReturn

/-- The terminator for lines that are inserted into the text. -/
def newline (table : LineTable) : Text :=
  if table.crlf then ['\r', '\n'] else ['\n']

/-- The place of a byte offset. Inside a character, bytes stand in for characters. -/
def position (table : LineTable) (t : Text) (offset : Nat) : Position :=
  let line := table.lineOf offset
  let start := (table.lineStart? line).getD 0
  { line, offset
    character := match t.slice? start offset with
      | some before => before.length
      | none => offset - start }

end LineTable

end ClassSpacing
