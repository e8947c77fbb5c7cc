import ClassSpacing.Text.LineTable

/-!
# Faults of JSON texts

A fault is a reason and a place. The reader only ever holds what is left of the text, so a place is
kept as the number of bytes that are left there; the line and the column follow from the whole text.
-/

namespace ClassSpacing.Json

/-- Why a text is refused. -/
inductive Reason where
  | endInValue
  | endInList
  | endInObject
  | endInString
  | expectedValue
  | expectedWord
  | expectedColon
  | expectedListEnd
  | expectedObjectEnd
  | keyNotString
  | invalidNumber
  | numberOutOfRange
  | invalidEscape
  | loneSurrogate
  | unfinishedSurrogate
  | controlCharacter
  | trailingComma
  | trailingCharacters
  /-- Lists and objects are nested too deeply. -/
  | tooDeep
  /-- The value is not of the wanted kind. -/
  | mismatch (found wanted : String)
  /-- A field that may stand once stands twice. -/
  | duplicateField (name : String)
deriving Repr, DecidableEq

/-- The words for a reason. -/
def Reason.message : Reason → String
  | endInValue => "EOF while parsing a value"
  | endInList => "EOF while parsing a list"
  | endInObject => "EOF while parsing an object"
  | endInString => "EOF while parsing a string"
  | expectedValue => "expected value"
  | expectedWord => "expected ident"
  | expectedColon => "expected `:`"
  | expectedListEnd => "expected `,` or `]`"
  | expectedObjectEnd => "expected `,` or `\x7d`"
  | keyNotString => "key must be a string"
  | invalidNumber => "invalid number"
  | numberOutOfRange => "number out of range"
  | invalidEscape => "invalid escape"
  | loneSurrogate => "lone leading surrogate in hex escape"
  | unfinishedSurrogate => "unexpected end of hex escape"
  | controlCharacter => "control character (\\u0000-\\u001F) found while parsing a string"
  | trailingComma => "trailing comma"
  | trailingCharacters => "trailing characters"
  | tooDeep => "recursion limit exceeded"
  | mismatch found wanted => s!"invalid type: {found}, expected {wanted}"
  | duplicateField name => s!"duplicate field `{name}`"

/-- A reason, and the number of bytes left where it was found. -/
structure Fault where
  reason : Reason
  remaining : Nat
deriving Repr, DecidableEq

namespace Fault

/-- A fault before what is left. -/
def here (reason : Reason) (rest : Text) : Fault :=
  ⟨reason, rest.byteLength⟩

/-- A fault behind the next byte of what is left, if there is one. -/
def ahead (reason : Reason) (rest : Text) : Fault :=
  ⟨reason, rest.byteLength - 1⟩

/-- The words for a fault of a text: the reason, the line, counted from one, and the number of bytes
    before the fault on that line. -/
def message (fault : Fault) (text : Text) : String :=
  let table := LineTable.ofText text
  let offset := text.byteLength - fault.remaining
  let line := table.lineOf offset
  let column := offset - (table.lineStart? line).getD 0
  s!"{fault.reason.message} at line {line + 1} column {column}"

end Fault

end ClassSpacing.Json
