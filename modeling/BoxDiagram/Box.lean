import BoxDiagram.Document.Scope
import BoxDiagram.Geometry

/-!
# Boxes

A box has a label, the path of the scope it belongs to, a place relative to its siblings and
a place on the canvas.  A box drawn for a scope holds further boxes, which stand relative to
the point below its caption; every other box holds none, and its inner origin is zero.
-/

namespace BoxDiagram

/-- A box of a diagram. -/
structure Box (α : Type) where
  label : Text
  path : Text
  x : α
  y : α
  width : α
  height : α
  rightAligned : Bool
  inner : Point α
  left : α
  top : α
  boxes : List (Box α)

namespace Box

variable {α : Type}

/-- The path of a box: its label below the path of its scope. -/
def pathLabel (b : Box α) : Text := pathBelow b.path b.label

mutual

/-- A box and all boxes in it, outer boxes first. -/
def walk : Box α → List (Box α)
  | ⟨label, path, x, y, width, height, rightAligned, inner, left, top, boxes⟩ =>
    ⟨label, path, x, y, width, height, rightAligned, inner, left, top, boxes⟩ :: walkAll boxes

/-- All boxes of a forest, outer boxes first. -/
def walkAll : List (Box α) → List (Box α)
  | [] => []
  | b :: bs => walk b ++ walkAll bs

end

variable [Scalar α]

/-- Whether a box was drawn for a scope, which shows in its inner origin. -/
def isScope (b : Box α) : Bool := !(b.inner.x == 0 && b.inner.y == 0)

/-- The right edge on the canvas. -/
def right (b : Box α) : α := b.left + b.width

/-- The lower edge on the canvas. -/
def bottom (b : Box α) : α := b.top + b.height

/-- The centre on the canvas. -/
def center (b : Box α) : Point α := ⟨b.left + b.width / Scalar.two, b.top + b.height / Scalar.two⟩

/-- A box ends strictly above another. -/
def isAbove (a b : Box α) : Bool := a.bottom < b.top

/-- A box begins strictly below another. -/
def isBelow (a b : Box α) : Bool := b.bottom < a.top

/-- A box ends strictly to the left of another. -/
def isLeftOf (a b : Box α) : Bool := a.right < b.left

/-- A box begins strictly to the right of another. -/
def isRightOf (a b : Box α) : Bool := b.right < a.left

end Box

end BoxDiagram
