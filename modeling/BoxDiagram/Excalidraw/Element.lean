import BoxDiagram.Decimal.Reading
import BoxDiagram.Geometry
import BoxDiagram.Json.Printer

/-!
# Elements of an Excalidraw scene

An element is a rectangle, a text or a line.  Its place is its upper left corner, for a line
its first point, and the points of a line are relative to that.  Each element has an
identifier and two random numbers.
-/

namespace BoxDiagram.Excalidraw

/-- What an element is, with all that belongs to it alone. -/
inductive Shape (α : Type) where
  | rectangle
  | text (text : Text) (fontSize : α)
  | line (style : Text) (points : List (Point α))

/-- The name of the kind of a shape. -/
def Shape.kind {α : Type} : Shape α → Text
  | .rectangle => "rectangle"
  | .text _ _ => "text"
  | .line _ _ => "line"

/-- What a call asks for: a shape with its place, its size and its colours. -/
structure Figure (α : Type) where
  shape : Shape α
  x : α
  y : α
  width : α
  height : α
  strokeColor : Text
  backgroundColor : Text

/-- A figure as it stands in a scene. -/
structure Element (α : Type) where
  id : Text
  figure : Figure α
  seed : Nat
  versionNonce : Nat

/-- The colour of a part that does not show. -/
def transparent : Text := "transparent"

/-- How the lines of an element are drawn. -/
def Shape.strokeStyle {α : Type} : Shape α → Text
  | .line style _ => style
  | _ => "solid"

/-- The fields that only one kind of shape has. -/
def Shape.fields : Shape Float → Fields
  | .rectangle => []
  | .text t fontSize =>
    [("text", .str t), ("originalText", .str t), ("fontSize", .float fontSize),
     ("fontFamily", .int 1), ("textAlign", .str "left"), ("verticalAlign", .str "top"),
     ("baseline", .float fontSize), ("containerId", .null)]
  | .line _ points =>
    [("points", .arr (points.map fun p => .arr [.float p.x, .float p.y])), ("startBinding", .null),
     ("endBinding", .null), ("startArrowhead", .null), ("endArrowhead", .null)]

/-- The fields that every kind of element has. -/
def Element.commonFields (e : Element Float) : Fields :=
  let f := e.figure
  [("id", .str e.id), ("type", .str f.shape.kind), ("x", .float f.x), ("y", .float f.y),
   ("width", .float f.width), ("height", .float f.height), ("angle", .int 0),
   ("fillStyle", .str "solid"), ("strokeWidth", .int 1), ("strokeStyle", .str f.shape.strokeStyle),
   ("roughness", .int 0), ("opacity", .int 100), ("groupIds", .arr []), ("frameId", .null),
   ("roundness", .null), ("seed", .int e.seed), ("version", .int 1),
   ("versionNonce", .int e.versionNonce), ("isDeleted", .bool false), ("boundElements", .arr []),
   ("locked", .bool false), ("strokeColor", .str f.strokeColor),
   ("backgroundColor", .str f.backgroundColor)]

/-- An element as a value. -/
def Element.json (e : Element Float) : Json := .obj (e.commonFields ++ e.figure.shape.fields)

end BoxDiagram.Excalidraw
