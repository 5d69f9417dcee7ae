import BoxDiagram.Excalidraw.Scene

/-!
# Excalidraw documents

A document holds the elements of a scene, the state of the editor and embedded files.
-/

namespace BoxDiagram

/-- An Excalidraw document. -/
structure ExcalidrawDocument where
  elements : List Json
  appState : Fields
  files : Fields

namespace ExcalidrawDocument

/-- A document as a value. -/
def json (d : ExcalidrawDocument) : Json :=
  .obj [("type", .str "excalidraw"), ("version", .int 2), ("source", .str "boxdraft"),
    ("elements", .arr d.elements), ("appState", .obj d.appState), ("files", .obj d.files)]

/-- The document of a scene. -/
def ofScene (s : ExcalidrawScene Float) : ExcalidrawDocument where
  elements := s.elements.map Excalidraw.Element.json
  appState :=
    [("viewBackgroundColor", .str s.backgroundColor), ("gridSize", .null),
     ("currentItemFontFamily", .int 1), ("currentItemStrokeColor", .str "#1e1e1e")]
  files := []

/-- The document as an indented JSON text. -/
def text (d : ExcalidrawDocument) : Except Json.WriteError Text := Json.write Json.indented d.json

end ExcalidrawDocument

end BoxDiagram
