import ClassSpacing.Text.Blank
import ClassSpacing.Text.Word

/-!
# Lines that only open a block

A class header may leave its opening brace on a line of its own, bare or right after the end of a
type parameter list. A member directly below such a line is below the header.
-/

namespace ClassSpacing.Text

/-- White space, one opening brace, white space. -/
def isBareBrace (t : Text) : Bool :=
  match t.dropWhile isSpace with
  | '{' :: rest => isBlank rest
  | _ => false

/-- The characters that may precede the `>` that closes a type parameter list. -/
def isParameterListChar (c : Char) : Bool :=
  isWord c || isSpace c || c == ',' || c == '<'

/-- Whether a line is a bare brace, or a bare brace after the end of a type parameter list. -/
def isOpeningBraceLine (line : Text) : Bool :=
  isBareBrace line ||
    match line.dropWhile isParameterListChar with
    | '>' :: rest => isBareBrace rest
    | _ => false

end ClassSpacing.Text
