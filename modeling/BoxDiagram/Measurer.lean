import BoxDiagram.Text.Basic
import BoxDiagram.Geometry

/-!
# Measuring text

A measurer knows the width of a text and the height of a line.  Without a font the width is
guessed from the characters: white space, narrow letters and wide letters have a share of the
font size of their own, and every other character has the share of an ordinary letter.
-/

namespace BoxDiagram

/-- What the layout knows about a font. -/
structure Measurer (α : Type) where
  width : Text → α
  lineHeight : α

/-- The share of the font size that a character is guessed to take. -/
def charShare (c : Char) : Float :=
  if isSpace c then 0.33
  else if c == 'i' || c == 'l' then 0.3
  else if c == 'm' || c == 'w' || c == 'M' || c == 'W' || c == '@' || c == '#' then 0.9
  else 0.6

/-- The guessed width of a text, added up from the left. -/
def guessedWidth (fontSize : Float) (t : Text) : Float :=
  t.foldl (fun width c => width + fontSize * charShare c) 0.0

/-- The measurer that guesses widths and takes the font size for the height of a line. -/
def Measurer.guessing (fontSize : Float) : Measurer Float := ⟨guessedWidth fontSize, fontSize⟩

end BoxDiagram
