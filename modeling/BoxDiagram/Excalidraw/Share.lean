import BoxDiagram.Excalidraw.Document
import BoxDiagram.Lz.Compress

/-!
# Share addresses

A document is shared as an address: the base without its fragment, and the document in its
compact form, compressed, as the new fragment.
-/

namespace BoxDiagram.ExcalidrawDocument

/-- The address of the public editor. -/
def publicBase : Text := "https://excalidraw.com/"

/-- A document in its compact form, compressed. -/
def payload (d : ExcalidrawDocument) : Except Json.WriteError Text :=
  Lz.compress <$> Json.write Json.compact d.json

/-- An address without its fragment. -/
def withoutFragment (base : Text) : Text := base.takeWhile (· != '#')

/-- The share address of a document. -/
def shareAddress (d : ExcalidrawDocument) (base : Text) : Except Json.WriteError Text :=
  (fun payload => withoutFragment base ++ ("#json=" : Text) ++ payload) <$> d.payload

end BoxDiagram.ExcalidrawDocument
