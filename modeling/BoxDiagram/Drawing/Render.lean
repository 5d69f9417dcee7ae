import BoxDiagram.Drawing.Call

/-!
# Rendering

A surface answers each call of a drawing with an effect of its own.  Rendering a scope tree
draws its scene on a surface, and does not begin if the tree has errors.  Rendering a text
renders the tree that it describes if that has no errors, and gives the tree back either way.
-/

namespace BoxDiagram

variable {α : Type} [Scalar α] [Angular α] {M : Type → Type} [Monad M]

/-- Render a scope tree on a surface and give back its scene. -/
def render (m : Measurer α) (style : Style α) (font : Text) (surface : Call α → M Unit)
    (s : Scope) : ExceptT InvalidDiagram M (Scene α) := do
  let scene ← ofExcept (Scene.ofScope m style s)
  ExceptT.lift ((drawScene m style font scene).forM surface)
  return scene

/-- Render a text on a surface, unless it has errors, and give back the tree that it describes. -/
def renderText (m : Measurer α) (style : Style α) (font : Text) (surface : Call α → M Unit)
    (t : Text) : ExceptT InvalidDiagram M Scope := do
  let s := Scope.ofText t
  if s.hasErrors then
    return s
  let _scene ← render m style font surface s
  return s

omit [Scalar α] [Angular α] in
/-- The surface that keeps the calls that it gets. -/
def recorder (call : Call α) : StateM (List (Call α)) Unit := modify (· ++ [call])

end BoxDiagram
