import ClassSpacing.Text.Basic

/-!
# Painted text

Reports for a terminal mark words by the control sequences of ANSI terminals. A painted text ends by
switching all marks off; if it holds such a switch itself, its own marks are switched on again
there.
-/

namespace ClassSpacing.Report

/-- A colour of the terminal. -/
inductive Colour where
  | red
  | green
  | yellow
  | cyan
deriving Repr, DecidableEq

/-- The number of a colour. -/
def Colour.code : Colour → String
  | red => "31"
  | green => "32"
  | yellow => "33"
  | cyan => "36"

/-- The marks of a text. -/
inductive Style where
  | bold
  | dimmed
  | colour (c : Colour)
  | boldColour (c : Colour)
deriving Repr, DecidableEq

/-- The numbers of a style. -/
def Style.code : Style → String
  | bold => "1"
  | dimmed => "2"
  | colour c => c.code
  | boldColour c => "1;" ++ c.code

/-- The sequence that switches all marks off. -/
def reset : String := "\x1b[0m"

/-- Whether reports are painted. -/
inductive Palette where
  | plain
  | ansi
deriving Repr, DecidableEq, Inhabited

/-- Paints a text, if the palette has colours. -/
def Palette.paint (palette : Palette) (style : Style) (text : String) : String :=
  match palette with
  | plain => text
  | ansi =>
    let on := "\x1b[" ++ style.code ++ "m"
    on ++ text.replace reset (reset ++ on) ++ reset

@[simp]
theorem Palette.paint_plain (style : Style) (text : String) :
    Palette.plain.paint style text = text :=
  rfl

end ClassSpacing.Report
