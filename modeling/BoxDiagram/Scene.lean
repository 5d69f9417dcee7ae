import BoxDiagram.Connector
import BoxDiagram.Layout

/-!
# Scenes

A scene is all that is drawn for a diagram: the boxes, the connectors and the size of the
canvas.  A diagram with errors has no scene.
-/

namespace BoxDiagram

/-- Everything that is drawn for a diagram. -/
structure Scene (α : Type) where
  boxes : List (Box α)
  connectors : List (Connector α)
  size : Size α

/-- A diagram that cannot be drawn, with what is amiss in it. -/
structure InvalidDiagram where
  messages : List Text
  deriving DecidableEq, Repr

/-- What is said about a diagram that cannot be drawn. -/
def InvalidDiagram.message (e : InvalidDiagram) : Text :=
  let message := Text.join [';', ' '] e.messages
  if message.isEmpty then "Invalid diagram" else message

variable {α : Type} [Scalar α] [Angular α]

/-- The scene of a scope tree that has no errors. -/
def Scene.ofValid (m : Measurer α) (style : Style α) (s : Scope) : Scene α :=
  let boxes := layoutBoxes m style.spacing s
  { boxes, connectors := connectAll style.headLength s boxes,
    size := canvasSize style.spacing boxes }

/-- The scene of a scope tree. -/
def Scene.ofScope (m : Measurer α) (style : Style α) (s : Scope) :
    Except InvalidDiagram (Scene α) :=
  if s.hasErrors then .error ⟨s.messages⟩ else .ok (.ofValid m style s)

end BoxDiagram
