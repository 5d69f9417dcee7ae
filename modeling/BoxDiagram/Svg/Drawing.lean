import BoxDiagram.Drawing.Call
import BoxDiagram.Svg.Element

/-!
# Drawing as SVG

A call adds one element to the drawing, or sets its size.  Every coordinate is written by
the rule of `coordinateText`; a call with one that cannot be written adds nothing.  A size
that cannot be written is kept all the same, and so are the attributes set before it.
-/

namespace BoxDiagram

/-- An SVG drawing. -/
structure Svg where
  width : Float
  height : Float
  attributes : Attributes
  elements : List Leaf

namespace Svg

/-- The name that marks the elements of an SVG document. -/
def namespaceName : Text := "http://www.w3.org/2000/svg"

/-- A drawing without size and elements. -/
def empty : Svg := ⟨0.0, 0.0, [("version", "1.1")], []⟩

/-- The drawing as a document. -/
def toText (s : Svg) : Text :=
  elementText "svg" (("xmlns", namespaceName) :: s.attributes) (linesText s.elements)

/-- A font split into the attributes of a text: the size without its unit, and the family. -/
def attributesOfFont (font : Text) : Attributes :=
  let (size, family) := (font.cutAt [' ']).getD (font, [])
  let attributes : Attributes := [("font-size", size.dropEnding ['p', 'x'])]
  if family.isEmpty then attributes else attributes.set "font-family" family

/-- Coordinates under their names. -/
def coordinates : List (Text × Float) → Except RoundingError Attributes
  | [] => .ok []
  | (name, x) :: more => do
    let t ← coordinateText x
    let rest ← coordinates more
    return (name, t) :: rest

/-- A point: its coordinates with a comma between. -/
def pointText (p : Point Float) : Except RoundingError Text := do
  let x ← coordinateText p.x
  let y ← coordinateText p.y
  return x ++ ',' :: y

/-- The points of a polygon with spaces between. -/
def pointsText (points : List (Point Float)) : Except RoundingError Text :=
  (Text.join [' ']) <$> points.mapM pointText

/-- The attributes for the inside and the outline of a shape. -/
def paint (fill stroke : Text) : Attributes := [("fill", fill), ("stroke", stroke)]

/-- A rectangle with a fill and a stroke. -/
def rectangle (x y width height : Float) (fill stroke : Text) : Except RoundingError Leaf := do
  let place ← coordinates [("x", x), ("y", y), ("width", width), ("height", height)]
  return ⟨"rect", place ++ paint fill stroke, []⟩

/-- A polygon with a fill and a stroke. -/
def polygon (points : List (Point Float)) (fill stroke : Text) : Except RoundingError Leaf := do
  let outline ← pointsText points
  return ⟨"polygon", ("points", outline) :: paint fill stroke, []⟩

/-- The dashes of a line as an attribute. -/
def dashAttributes : Option (Float × Float) → Except RoundingError Attributes
  | none => .ok []
  | some (length, spacing) => do
    let length ← coordinateText length
    let spacing ← coordinateText spacing
    return [("stroke-dasharray", length ++ ' ' :: spacing)]

/-- The element that a call adds to a drawing of a given size; setting the size adds none. -/
def elementOf (width height : Float) : Call Float → Except RoundingError (Option Leaf)
  | .setSize _ _ => .ok none
  | .fillBackground color => some <$> rectangle 0.0 0.0 width height color "none"
  | .fillRect x y w h color => some <$> rectangle x y w h color "none"
  | .strokeRect x y w h color => some <$> rectangle x y w h "none" color
  | .fillText text x y color font => do
    let place ← coordinates [("x", x), ("y", y)]
    let color : Attributes := [("fill", color)]
    return some ⟨"text", place ++ color ++ attributesOfFont font, text⟩
  | .strokeLine start finish color dash => do
    let ends ← coordinates [("x1", start.x), ("y1", start.y), ("x2", finish.x), ("y2", finish.y)]
    let dashes ← dashAttributes dash
    let color : Attributes := [("stroke", color)]
    return some ⟨"line", ends ++ color ++ dashes, []⟩
  | .fillPolygon points color => some <$> polygon points color "none"
  | .strokePolygon points color => some <$> polygon points "none" color

/-- Set the size of a drawing, and the reason why it could not be written. -/
def setSize (s : Svg) (width height : Float) : Svg × Option RoundingError :=
  let s := { s with width, height }
  match coordinateText width with
  | .error e => (s, some e)
  | .ok w =>
    let s := { s with attributes := s.attributes.set "width" w }
    match coordinateText height with
    | .error e => (s, some e)
    | .ok h =>
      let viewBox : Text := '0' :: ' ' :: '0' :: ' ' :: w ++ ' ' :: h
      ({ s with attributes := (s.attributes.set "height" h).set "viewBox" viewBox }, none)

/-- The drawing after a call, and the reason why the call failed if it did. -/
def draw (s : Svg) (call : Call Float) : Svg × Option RoundingError :=
  match call with
  | .setSize width height => s.setSize width height
  | call =>
    match elementOf s.width s.height call with
    | .error e => (s, some e)
    | .ok none => (s, none)
    | .ok (some leaf) => ({ s with elements := s.elements ++ [leaf] }, none)

/-- The drawing after some calls, up to the first that fails. -/
def drawAll (s : Svg) : List (Call Float) → Except RoundingError Svg
  | [] => .ok s
  | call :: calls =>
    match s.draw call with
    | (_, some e) => .error e
    | (s, none) => drawAll s calls

end Svg

end BoxDiagram
