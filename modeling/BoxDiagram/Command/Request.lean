import BoxDiagram.Files.Path

/-!
# Requests

A request is a command with its arguments: to render one diagram or all diagrams of a folder, to
check a diagram, or to make a share address of one.
-/

namespace BoxDiagram

/-- The formats of a rendered diagram. -/
inductive Format where
  | svg
  | excalidraw
  deriving DecidableEq, Repr

/-- The name of a format. -/
def Format.name : Format → Text
  | .svg => "svg"
  | .excalidraw => "excalidraw"

/-- The suffix of a rendered diagram. -/
def Format.suffix (f : Format) : Text := '.' :: f.name

/-- A command with its arguments. -/
inductive Request where
  | render (input : Path) (output : Option Path) (format : Format) (config : Option Path)
  | renderAll (inputs outputs : Path) (format : Format) (config : Option Path)
  | validate (input : Path)
  | url (input : Path) (base : Text) (config : Option Path)
  deriving DecidableEq, Repr

end BoxDiagram
