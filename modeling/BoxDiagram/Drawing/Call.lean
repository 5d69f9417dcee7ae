import BoxDiagram.Scene

/-!
# Drawing

A scene is drawn by calls to a surface.  First the canvas gets its size and its background;
then come the boxes, outer boxes before the boxes in them, and then the connectors.  A
container gets a shaded strip with its caption and an outline; any other box an outline and
the words of its label, each centred on a line of its own.
-/

namespace BoxDiagram

/-- A call to a surface.  Coordinates are those of the canvas, and a text is placed by the left
end of its baseline. -/
inductive Call (α : Type) where
  | setSize (width height : α)
  | fillBackground (color : Text)
  | fillRect (x y width height : α) (color : Text)
  | strokeRect (x y width height : α) (color : Text)
  | fillText (text : Text) (x y : α) (color font : Text)
  | strokeLine (start finish : Point α) (color : Text) (dash : Option (α × α))
  | fillPolygon (points : List (Point α)) (color : Text)
  | strokePolygon (points : List (Point α)) (color : Text)

variable {α : Type} [Scalar α]

/-- The calls for the words of a label, one below the other, the first on the baseline `y`. -/
def drawWords (m : Measurer α) (style : Style α) (font : Text) (left width : α) :
    α → List Text → List (Call α)
  | _, [] => []
  | y, word :: words =>
    .fillText word (left + (width - m.width word) / Scalar.two) y style.lineColor font
      :: drawWords m style font left width (y + m.lineHeight) words

/-- The baseline of the first line of text in a box with a given upper edge. -/
def firstBaseline (m : Measurer α) (style : Style α) (top : α) : α :=
  top + style.scopePadding + m.lineHeight

/-- The calls for a container without the boxes in it. -/
def drawContainer (m : Measurer α) (style : Style α) (font : Text) (b : Box α) : List (Call α) :=
  let baseline := firstBaseline m style b.top
  [.fillRect b.left b.top b.width b.inner.y style.shadeColor,
   .fillText b.label (b.left + style.scopePadding) baseline style.lineColor font,
   .strokeRect b.left b.top b.width b.height style.lineColor]

/-- The calls for a box that holds text. -/
def drawLeaf (m : Measurer α) (style : Style α) (font : Text) (b : Box α) : List (Call α) :=
  .strokeRect b.left b.top b.width b.height style.lineColor
    :: drawWords m style font b.left b.width (firstBaseline m style b.top) b.label.words

mutual

/-- The calls for a box and all boxes in it. -/
def drawBox (m : Measurer α) (style : Style α) (font : Text) : Box α → List (Call α)
  | ⟨label, path, x, y, width, height, rightAligned, inner, left, top, boxes⟩ =>
    let b : Box α := ⟨label, path, x, y, width, height, rightAligned, inner, left, top, boxes⟩
    if b.isScope then drawContainer m style font b ++ drawBoxes m style font boxes
    else drawLeaf m style font b

/-- The calls for sibling boxes. -/
def drawBoxes (m : Measurer α) (style : Style α) (font : Text) : List (Box α) → List (Call α)
  | [] => []
  | b :: bs => drawBox m style font b ++ drawBoxes m style font bs

end

omit [Scalar α] in
/-- The calls for the head of a connector. -/
def drawHead (style : Style α) (c : Connector α) : List (Call α) :=
  let line := style.lineColor
  match c.style.head with
  | .plain =>
    [.strokeLine c.head.tip c.head.sideA line none, .strokeLine c.head.tip c.head.sideB line none]
  | head =>
    let inside := if head.isHollow then style.backgroundColor else line
    [.fillPolygon c.head.outline inside, .strokePolygon c.head.outline line]

omit [Scalar α] in
/-- The calls for a connector. -/
def drawConnector (style : Style α) (c : Connector α) : List (Call α) :=
  let dash := match c.style.line with
    | .dashed => some style.dash
    | .solid => none
  .strokeLine c.start c.finish style.lineColor dash :: drawHead style c

/-- The calls that draw a scene. -/
def drawScene (m : Measurer α) (style : Style α) (font : Text) (scene : Scene α) : List (Call α) :=
  .setSize scene.size.width scene.size.height
    :: .fillBackground style.backgroundColor
    :: drawBoxes m style font scene.boxes
    ++ scene.connectors.flatMap (drawConnector style)

end BoxDiagram
