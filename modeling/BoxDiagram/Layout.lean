import BoxDiagram.Box
import BoxDiagram.Measurer
import BoxDiagram.Style

/-!
# Layout

The boxes of a scope stand in rows from the top, and in a row from the left, a margin apart.
A label that names a nested scope gets a container: its caption, and below it the boxes of
that scope, which are laid out first.  Any other label gets a box as wide as its longest word
and with a line for each word.  When all rows stand, the right-aligned boxes of each row
slide to the right edge of the widest row.  Places on the canvas are added up last, from the
outermost boxes inwards.
-/

namespace BoxDiagram

variable {α : Type} [Scalar α]

/-! ### Sizes -/

/-- The size of a box for a label without boxes in it. -/
def leafSize (m : Measurer α) (sp : Spacing α) (label : Text) : Size α :=
  let words := label.words
  let width := greatest (words.map m.width)
  let height := m.lineHeight * Scalar.count words.length
  ⟨width + sp.padding * Scalar.two, height + sp.padding * Scalar.two⟩

/-- The size of the caption of a container. -/
def captionSize (m : Measurer α) (sp : Spacing α) (label : Text) : Size α :=
  ⟨m.width label + sp.padding * Scalar.two, m.lineHeight + sp.padding * Scalar.two⟩

/-- The size of what holds some boxes, with a margin behind the last of them. -/
def contentSize (margin : α) (boxes : List (Box α)) : Size α :=
  ⟨boxes.foldl (fun width b => larger width (b.x + b.width)) 0 + margin,
   boxes.foldl (fun height b => larger height (b.y + b.height)) 0 + margin⟩

/-- The size of the canvas for some outermost boxes. -/
def canvasSize (sp : Spacing α) (boxes : List (Box α)) : Size α :=
  let content := contentSize sp.margin boxes
  let padding := sp.canvasPadding * Scalar.two
  ⟨content.width + padding, content.height + padding⟩

/-! ### Rows -/

/-- The box for a label at a place in a row; `nested` are the boxes of the scope it names. -/
def boxFor (m : Measurer α) (sp : Spacing α) (path label : Text) (x y : α) (rightAligned : Bool)
    (nested : Option (List (Box α))) : Box α :=
  match nested with
  | none =>
    let size := leafSize m sp label
    { label, path, x, y, width := size.width, height := size.height, rightAligned,
      inner := .origin, left := 0, top := 0, boxes := [] }
  | some boxes =>
    let content := contentSize sp.margin boxes
    let caption := captionSize m sp label
    { label, path, x, y, width := larger content.width caption.width,
      height := caption.height + content.height, rightAligned, inner := ⟨0, caption.height⟩,
      left := 0, top := 0, boxes }

/-- The boxes of one row before alignment, from a place onwards, and the place behind them. -/
def packRow (m : Measurer α) (sp : Spacing α) (path : Text) (nested : Text → Option (List (Box α)))
    (x y : α) : List (Text × Bool) → List (Box α) × α
  | [] => ([], x)
  | (label, rightAligned) :: labels =>
    let b := boxFor m sp path label x y rightAligned (nested label)
    let (boxes, behind) := packRow m sp path nested (x + (b.width + sp.margin)) y labels
    (b :: boxes, behind)

/-- The labels of a row, each with the side it belongs to. -/
def sidedLabels (row : Row) : List (Text × Bool) :=
  row.left.map (·, false) ++ row.right.map (·, true)

/-- The height of a row: that of its highest box. -/
def rowHeight (boxes : List (Box α)) : α :=
  boxes.foldl (fun height b => larger height b.height) 0

/-- The rows of a scope before alignment, from a height onwards, and the right edge of the
widest of them. -/
def packRows (m : Measurer α) (sp : Spacing α) (path : Text) (nested : Text → Option (List (Box α)))
    (y edge : α) : List Row → List (List (Box α)) × α
  | [] => ([], edge)
  | row :: rows =>
    let (boxes, behind) := packRow m sp path nested sp.margin y (sidedLabels row)
    let edge := if boxes.isEmpty then edge else larger edge (behind - sp.margin)
    let (rest, edge) := packRows m sp path nested (y + (rowHeight boxes + sp.margin)) edge rows
    (boxes :: rest, edge)

/-- Slide the right-aligned boxes of a row to an edge, beginning with the last box; also gives
the place where the next box to the left would end. -/
def slideRight (margin edge : α) : List (Box α) → List (Box α) × α
  | [] => ([], edge)
  | b :: boxes =>
    let (boxes, edge) := slideRight margin edge boxes
    if b.rightAligned then
      let x := edge - b.width
      ({ b with x } :: boxes, x - margin)
    else (b :: boxes, edge)

/-- The boxes of a scope from its rows. -/
def arrange (m : Measurer α) (sp : Spacing α) (path : Text) (nested : Text → Option (List (Box α)))
    (rows : List Row) : List (Box α) :=
  let (packed, edge) := packRows m sp path nested sp.margin 0 rows
  packed.flatMap fun boxes => (slideRight sp.margin edge boxes).1

/-! ### Scopes -/

mutual

/-- The boxes of the scope at a path, relative to its content. -/
def scopeBoxes (m : Measurer α) (sp : Spacing α) (path : Text) : Scope → List (Box α)
  | ⟨_, layout, _, nested, _⟩ =>
    let inner := nestedBoxes m sp path nested
    arrange m sp path (fun label => List.lookup label inner) (layout.getD [])

/-- The boxes of the scopes nested at a path, each with its label. -/
def nestedBoxes (m : Measurer α) (sp : Spacing α) (path : Text) :
    List Scope → List (Text × List (Box α))
  | [] => []
  | s :: scopes =>
    (s.label, scopeBoxes m sp (pathBelow path s.label) s) :: nestedBoxes m sp path scopes

end

/-! ### Places on the canvas -/

mutual

/-- Place a box and all boxes in it on the canvas, given where the box's siblings start. -/
def placeBox (start : Point α) : Box α → Box α
  | ⟨label, path, x, y, width, height, rightAligned, inner, _, _, boxes⟩ =>
    let left := start.x + x
    let top := start.y + y
    { label, path, x, y, width, height, rightAligned, inner, left, top,
      boxes := placeBoxes ⟨left + inner.x, top + inner.y⟩ boxes }

/-- Place sibling boxes on the canvas. -/
def placeBoxes (start : Point α) : List (Box α) → List (Box α)
  | [] => []
  | b :: bs => placeBox start b :: placeBoxes start bs

end

/-- The boxes of a whole diagram. -/
def layoutBoxes (m : Measurer α) (sp : Spacing α) (s : Scope) : List (Box α) :=
  placeBoxes ⟨sp.canvasPadding, sp.canvasPadding⟩ (scopeBoxes m sp [] s)

end BoxDiagram
