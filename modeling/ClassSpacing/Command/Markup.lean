import ClassSpacing.Report.Paint

/-!
# Marked-up messages

Messages on the use of the program are built from stretches of text, each with the role it plays.
Only a palette with colours shows the roles.
-/

namespace ClassSpacing.Command

/-- What a stretch of a message is. -/
inductive Role where
  | plain
  | heading
  /-- Something to be typed as it stands. -/
  | literal
  /-- Something that would be accepted. -/
  | accepted
  /-- Something that was refused. -/
  | refused
  /-- The word that opens a message about a failure. -/
  | failure
deriving Repr, DecidableEq, Inhabited

/-- The numbers of the terminal's marks for a role. -/
def Role.codes : Role → List String
  | plain => []
  | heading => ["1", "4"]
  | literal => ["1"]
  | accepted => ["32"]
  | refused => ["33"]
  | failure => ["1", "31"]

/-- Some stretches of text with their roles. -/
abbrev Markup := List (Role × String)

/-- A text without a role. -/
def say (text : String) : Markup := [(.plain, text)]

namespace Markup

/-- Some texts with something between them. -/
def intercalate (between : String) (items : List Markup) : Markup :=
  (items.intersperse (say between)).flatten

/-- The words of a message. -/
def words (m : Markup) : String :=
  String.join (m.map (·.2))

/-- One stretch as it is shown. Each mark is switched on by itself. -/
def renderStretch (palette : Report.Palette) (role : Role) (text : String) : String :=
  match palette, role.codes with
  | .plain, _ => text
  | .ansi, [] => text
  | .ansi, codes =>
    String.join (codes.map fun code => "\x1b[" ++ code ++ "m") ++ text ++ Report.reset

/-- A message as it is shown. -/
def render (palette : Report.Palette) (m : Markup) : String :=
  String.join (m.map fun (role, text) => renderStretch palette role text)

/-- Without colours, a message is its words. -/
@[simp]
theorem render_plain (m : Markup) : m.render .plain = m.words :=
  rfl

end Markup

end ClassSpacing.Command
