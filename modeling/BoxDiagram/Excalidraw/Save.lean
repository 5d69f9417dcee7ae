import BoxDiagram.Excalidraw.Document
import BoxDiagram.Files.Tree

/-!
# Saving documents

A document is saved as its indented text.  The folder of the file is made first, so a document
that cannot be written may leave a new folder behind but never a file.
-/

namespace BoxDiagram

/-- Why a document was not saved. -/
inductive SaveError where
  | file (error : FileError)
  | writing (error : Json.WriteError)
  deriving DecidableEq, Repr

/-- Save a document at a path.  The tree that is left says what a failure has already changed. -/
def ExcalidrawDocument.save (d : ExcalidrawDocument) (tree : FileTree) (p : Path) :
    FileTree × Option SaveError :=
  match tree.prepare p with
  | (tree, .error e) => (tree, some (.file e))
  | (tree, .ok _) =>
    match d.text with
    | .error e => (tree, some (.writing e))
    | .ok t =>
      let (tree, error) := tree.save p t.encode
      (tree, error.map .file)

end BoxDiagram
