import BoxDiagram.Drawing.Call
import BoxDiagram.Excalidraw.Element
import BoxDiagram.Identifier.Uuid
import BoxDiagram.Random

/-!
# Drawing as an Excalidraw scene

Every call but those for the size and the background appends one element.  Its identifier
comes from the kind of the element and the number of elements before it, inside the namespace
of the scene's name, and its two numbers are the next two draws of the scene's generator.  A
polygon is closed by its first point; one without points is refused and leaves the scene as
it was.
-/

namespace BoxDiagram

/-- What an Excalidraw scene needs to know about lettering. -/
class Lettering (α : Type) where
  /-- The font size that a number stands for, if it is a number of this kind. -/
  ofNumeral : Numeral → Option α
  /-- The font size of a font that names none. -/
  standardSize : α
  /-- The height of a line for a font size of one. -/
  leading : α
  /-- The width of a character for a font size of one. -/
  advance : α

instance : Lettering Float where
  ofNumeral n := some n.toFloat
  standardSize := 14.0
  leading := 1.25
  advance := 0.6

instance : Lettering Rat where
  ofNumeral
    | .decimal negative m e =>
      let (up, down) := powerFraction 10 e
      some ((if negative then -(m : Rat) else m) * up / down)
    | _ => none
  standardSize := 14
  leading := 5 / 4
  advance := 3 / 5

/-- An Excalidraw scene in the making. -/
structure ExcalidrawScene (α : Type) where
  scope : Uuid
  elements : List (Excalidraw.Element α)
  width : α
  height : α
  backgroundColor : Text
  random : Twister

namespace Excalidraw

/-- A polygon without points. -/
inductive DrawError where
  | noPoints
  deriving DecidableEq, Repr

/-- What is said about a polygon without points. -/
def DrawError.message : DrawError → Text
  | .noPoints => "list index out of range"

variable {α : Type} [Scalar α]

/-- The font size that a font names in front of its first space, with or without `px`. -/
def fontSizeOf [Lettering α] (font : Text) : α :=
  let size := match font.cutAt [' '] with
    | some (size, _) => size
    | none => font
  ((readNumber (size.dropEnding ['p', 'x'])).bind Lettering.ofNumeral).getD Lettering.standardSize

/-- The distance between the least and the greatest of some numbers. -/
def extent : List α → α
  | [] => 0
  | a :: as => as.foldl larger a - as.foldl smaller a

/-- The line through some points. -/
def lineFigure (stroke background style : Text) : List (Point α) → Except DrawError (Figure α)
  | [] => .error .noPoints
  | first :: more =>
    let points := (first :: more).map fun p => (⟨p.x - first.x, p.y - first.y⟩ : Point α)
    .ok { shape := .line style points, x := first.x, y := first.y,
          width := extent (points.map Point.x), height := extent (points.map Point.y),
          strokeColor := stroke, backgroundColor := background }

omit [Scalar α] in
/-- The points of a polygon with the first again at the end. -/
def closePolygon (points : List (Point α)) : List (Point α) := points ++ points.take 1

/-- The text with its baseline at a place; an element is placed by its upper edge. -/
def textFigure [Lettering α] (text : Text) (x y : α) (color font : Text) : Figure α :=
  let size : α := fontSizeOf font
  { shape := .text text size, x, y := y - size,
    width := Scalar.count text.length * size * Lettering.advance,
    height := size * Lettering.leading, strokeColor := color, backgroundColor := transparent }

/-- The figure that a call asks for, if it asks for one. -/
def figureOf [Lettering α] : Call α → Except DrawError (Option (Figure α))
  | .setSize _ _ => .ok none
  | .fillBackground _ => .ok none
  | .fillRect x y width height color =>
    .ok (some ⟨.rectangle, x, y, width, height, transparent, color⟩)
  | .strokeRect x y width height color =>
    .ok (some ⟨.rectangle, x, y, width, height, color, transparent⟩)
  | .fillText text x y color font => .ok (some (textFigure text x y color font))
  | .strokeLine start finish color dash =>
    let style : Text := if dash.isSome then "dashed" else "solid"
    some <$> lineFigure color transparent style [start, finish]
  | .fillPolygon points color =>
    some <$> lineFigure transparent color "solid" (closePolygon points)
  | .strokePolygon points color =>
    some <$> lineFigure color transparent "solid" (closePolygon points)

end Excalidraw

namespace ExcalidrawScene

open Excalidraw

variable {α : Type} [Scalar α]

/-- A scene without elements, with a name and a seed. -/
def empty (name : Text) (seed : Int) : ExcalidrawScene α :=
  ⟨Uuid.domainNames.ofName name, [], 0, 0, "#ffffff", Twister.ofSeed seed⟩

omit [Scalar α] in
/-- The identifier of a figure that is appended to a scene. -/
def nextId (s : ExcalidrawScene α) (f : Figure α) : Text :=
  (s.scope.ofName (f.shape.kind ++ '|' :: natText s.elements.length)).text

omit [Scalar α] in
/-- Append a figure to a scene. -/
def append (s : ExcalidrawScene α) (f : Figure α) : ExcalidrawScene α :=
  let (seed, random) := s.random.draw
  let (versionNonce, random) := random.draw
  { s with elements := s.elements ++ [⟨s.nextId f, f, seed, versionNonce⟩], random }

/-- The scene after a call that does not fail. -/
def draw [Lettering α] (s : ExcalidrawScene α) (call : Call α) :
    Except DrawError (ExcalidrawScene α) :=
  match figureOf call with
  | .error e => .error e
  | .ok (some f) => .ok (s.append f)
  | .ok none =>
    match call with
    | .setSize width height => .ok { s with width, height }
    | .fillBackground color => .ok { s with backgroundColor := color }
    | _ => .ok s

/-- The scene after some calls, up to the first that fails. -/
def drawAll [Lettering α] (s : ExcalidrawScene α) :
    List (Call α) → Except DrawError (ExcalidrawScene α)
  | [] => .ok s
  | call :: calls =>
    match s.draw call with
    | .error e => .error e
    | .ok s => drawAll s calls

end ExcalidrawScene

end BoxDiagram
