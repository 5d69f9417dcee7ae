import BoxDiagram.Decimal.Style
import BoxDiagram.Geometry

/-!
# Style

A style holds all that is set about the looks of a diagram: the font, the distances, the
colours, the dashes and the length of arrow heads.
-/

namespace BoxDiagram

/-- The looks of a diagram. -/
structure Style (α : Type) where
  fontSize : α
  fontFamily : Text
  scopeMargin : α
  scopePadding : α
  canvasPadding : α
  backgroundColor : Text
  shadeColor : Text
  lineColor : Text
  dashLength : α
  dashSpacing : α
  headLength : α

/-- The distances that the layout keeps: between boxes, around the text in a box, and around the
whole drawing. -/
structure Spacing (α : Type) where
  margin : α
  padding : α
  canvasPadding : α
  deriving DecidableEq, Repr

namespace Style

/-- The usual looks. -/
def standard : Style Float where
  fontSize := 14.0
  fontFamily := "Georgia"
  scopeMargin := 30.0
  scopePadding := 10.0
  canvasPadding := 15.0
  backgroundColor := "#CAFFF6"
  shadeColor := "#9ED8CE"
  lineColor := "#000000"
  dashLength := 5.0
  dashSpacing := 3.0
  headLength := 10.0

/-- The distances of a style. -/
def spacing {α : Type} (style : Style α) : Spacing α :=
  ⟨style.scopeMargin, style.scopePadding, style.canvasPadding⟩

/-- The lengths of a dash and of the gap after it. -/
def dash {α : Type} (style : Style α) : α × α := (style.dashLength, style.dashSpacing)

/-- The font as surfaces are told it: the size with at most six digits and `px`, a space, and the
family. -/
def font (style : Style Float) : Text :=
  generalText style.fontSize ++ 'p' :: 'x' :: ' ' :: style.fontFamily

end Style

end BoxDiagram
